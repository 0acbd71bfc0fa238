import ActionRouting.Proofs.Path.Compiled
import ActionRouting.Proofs.Path.Descriptors
import ActionRouting.Proofs.Regex.Local

/-! Bare paths: paths whose characters are no syntax of regular expressions but dots, stars and what
belongs to a parameter that captures what it captures by default. They are compiled piece by piece,
whatever stands next to what. -/
namespace ActionRouting

namespace Path

open Text Regex

/-- A piece of a path that brings no regular expression of its own: a character without a meaning in
one, a dot, a star, or a parameter that captures what it captures by default. -/
def isBare : Piece Fragment → Bool
  | .plain c => isFree c || c == '/' || c == ':'
  | .token (.param p) => p.capture.isNone
  | .token .dot | .token .wildcard => true
  | .token _ => false

def isBarePath (cs : List Char) : Bool := (Fragment.scanner.pieces cs).all isBare

/-- The regular expression that a piece becomes. -/
def imageOf (q : Piece Fragment) : List Char := images [q]

def bareSlots : Piece Fragment → List Slot
  | .token (.param p) =>
    ⟨some (String.ofList p.name), p.optional⟩ :: if p.star then [⟨none, true⟩] else []
  | .token .wildcard => [{}]
  | _ => []

/-- The tokens of anything but the end of a line, as much of it as possible. -/
def anythingTokens : List Token := [.dot, .quantifier .greedy 0 none]

def bareTokens : Piece Fragment → List Token
  | .plain c => [.char c.toNat]
  | .token (.param p) => tokensOf (.token p) ++ if p.star then
      .openCapture none :: (.char 47 :: anythingTokens ++
        [.close, .quantifier .greedy 0 (some 1)]) else []
  | .token .dot => [.char 46]
  | .token .wildcard => .openCapture none :: (anythingTokens ++ [.close])
  | .token _ => []

/-- Anything but the end of a line, as much of it as possible. -/
def anythingNode (casing : Casing) : Node :=
  .loop true 0 none (.chars ⟨true, [.range 10 10], casing, false⟩)

/-- What a star after a parameter adds: a slash and anything after it, which may be missing. -/
def trailingNode (casing : Casing) (index : Nat) : Node :=
  .loop true 0 (some 1) (.group index (.ofParts [charNode casing '/', anythingNode casing]))

/-- The parts of a bare piece, whose capture groups have numbers above `count`. -/
def bareNodes (casing : Casing) (count : Nat) : Piece Fragment → List Node
  | .plain c => [charNode casing c]
  | .token (.param p) => p.nodes casing (count + 1) ++
      if p.star then [trailingNode casing (count + 2)] else []
  | .token .dot => [charNode casing '.']
  | .token .wildcard => [.group (count + 1) (.ofParts [anythingNode casing])]
  | .token _ => []

def bareNodesOf (casing : Casing) : Nat → List (Piece Fragment) → List Node
  | _, [] => []
  | count, q :: ps =>
    bareNodes casing count q ++ bareNodesOf casing (count + (bareSlots q).length) ps

variable {q : Piece Fragment} {ps : List (Piece Fragment)} {rest cs : List Char}

lemma images_cons (q : Piece Fragment) (ps : List (Piece Fragment)) :
    images (q :: ps) = imageOf q ++ images ps := by
  cases q <;> simp [images, imageOf]

/-- The image of a parameter with a star is its image without one, and what the star adds. -/
lemma image_star (p : Param) : (Fragment.param p).image =
    (Fragment.param { p with star := false }).image ++
      if p.star then Pattern.trailingCapture else [] := by
  cases h : p.star <;> simp [Fragment.image, Param.head, Param.captureText, Param.foot, h]

lemma ofPieces_bare (h : ps.all isBare) :
    Pattern.ofPieces ps = .ok (images ps, ps.flatMap bareSlots) := by
  induction ps with
  | nil => rfl
  | cons q ps ih =>
    rw [List.all_cons, Bool.and_eq_true] at h
    have ih := ih h.2
    cases q with
    | plain c =>
      rw [Pattern.ofPieces, ih]
      rfl
    | token f =>
      have hf : Pattern.ofFragment f = .ok (f.image, bareSlots (.token f)) := by
        rcases f with p | c | name | _ | _
        · exact ofParam_of_capture (Option.isNone_iff_eq_none.mp h.1)
        · exact absurd h.1 Bool.false_ne_true
        · exact absurd h.1 Bool.false_ne_true
        · rfl
        · rfl
      rw [Pattern.ofPieces, hf, ih]
      rfl

section Lexes

variable {ts : List Token}

lemma lexes_anything (h : Lexes rest ts) (hr : rest.head? = some ')') :
    Lexes ('.' :: '*' :: rest) (anythingTokens ++ ts) := by
  obtain ⟨rest, rfl⟩ := List.head?_eq_some_iff.mp hr
  exact .cons rfl (Nat.le_refl _) (.of_eq fun _ => rfl)
    (.cons rfl (Nat.le_refl _) (.of_eq fun _ => rfl) h)

lemma lexes_bare (hq : isBare q) (hr : endsPart rest) (h : Lexes rest ts) :
    Lexes (imageOf q ++ rest) (bareTokens q ++ ts) := by
  rcases q with c | ⟨p | c | name | _ | _⟩
  · have hread : readToken c rest = (.char c.toNat, rest) := by
      have hc : (isFree c ∨ c = '/') ∨ c = ':' := by simpa [isBare] using hq
      rcases hc with (hc | rfl) | rfl
      · exact readToken_free hc rest
      · rfl
      · rfl
    exact .cons hread (Nat.le_refl _) (isQuiet_char _) h
  · have hc : p.capture = none := Option.isNone_iff_eq_none.mp hq
    have hstar : Lexes ((if p.star then Pattern.trailingCapture else []) ++ rest)
        ((if p.star then .openCapture none :: (.char 47 :: anythingTokens ++
          [.close, .quantifier .greedy 0 (some 1)]) else []) ++ ts) := by
      cases p.star with
      | false => exact h
      | true =>
        have hclose : Lexes (')' :: '?' :: rest) (.close :: .quantifier .greedy 0 (some 1) :: ts) :=
          .cons rfl (Nat.le_refl _) isQuiet_close (lexes_query hr h)
        have hopen : readToken '(' ('/' :: '.' :: '*' :: ')' :: '?' :: rest) =
            (.openCapture none, '/' :: '.' :: '*' :: ')' :: '?' :: rest) :=
          readToken_open (by simp)
        exact .cons hopen (Nat.le_refl _) (isQuiet_openCapture _)
          (.cons rfl (Nat.le_refl _) (isQuiet_char _) (lexes_anything hclose rfl))
    have hends : endsPart ((if p.star then Pattern.trailingCapture else []) ++ rest) := by
      cases p.star with
      | false => exact hr
      | true => rfl
    have := lexes_image (p := { p with star := false }) hc rfl (fun _ => hends) hstar
    simpa [imageOf, images, image_star p, bareTokens, tokensOf, Param.captureTokens, Param.barred]
      using this
  · exact absurd hq Bool.false_ne_true
  · exact absurd hq Bool.false_ne_true
  · exact .cons rfl (Nat.le_succ _) (isQuiet_char _) h
  · have hopen : readToken '(' ('.' :: '*' :: ')' :: rest) =
        (.openCapture none, '.' :: '*' :: ')' :: rest) := readToken_open (by simp)
    exact .cons hopen (Nat.le_refl _) (isQuiet_openCapture _)
      (lexes_anything (.cons rfl (Nat.le_refl _) isQuiet_close h) rfl)

lemma endsPart_bare (hq : isBare q) (rest : List Char) : endsPart (imageOf q ++ rest) := by
  rcases q with c | ⟨p | c | name | _ | _⟩
  · have hc : (isFree c ∨ c = '/') ∨ c = ':' := by simpa [isBare] using hq
    have hne : c ≠ '?' ∧ c ≠ '+' := by
      rcases hc with (hc | rfl) | rfl
      · exact ⟨isFree_ne hc (by decide), isFree_ne hc (by decide)⟩
      · decide
      · decide
    simp [imageOf, images, endsPart, hne.1, hne.2]
  · have hopen : "(?:".toList = ['(', '?', ':'] := rfl
    cases ho : p.optional <;> cases hs : p.slash <;>
      simp [imageOf, images, endsPart, Fragment.image, Param.head, ho, hs, hopen]
  · exact absurd hq Bool.false_ne_true
  · exact absurd hq Bool.false_ne_true
  · rfl
  · rfl

/-- The regular expression of bare pieces is read piece by piece. -/
theorem lexes_images (h : ps.all isBare) (hr : endsPart rest) (ht : Lexes rest ts) :
    Lexes (images ps ++ rest) (ps.flatMap bareTokens ++ ts) := by
  induction ps with
  | nil => exact ht
  | cons q ps ih =>
    rw [List.all_cons, Bool.and_eq_true] at h
    have hends : endsPart (images ps ++ rest) := by
      cases ps with
      | nil => exact hr
      | cons q' ps =>
        have := (Bool.and_eq_true_iff.mp h.2).1
        rw [images_cons, List.append_assoc]
        exact endsPart_bare this _
    rw [images_cons, List.flatMap_cons, List.append_assoc, List.append_assoc]
    exact lexes_bare h.1 hends (ih h.2)

end Lexes

section Adds

variable {r : Parser} {b : Bool}

lemma adds_anything (hf : r.frame.flags = { ignoreCase := b }) :
    r.Adds anythingTokens [anythingNode (casingOf b)] 0 := by
  have := r.adds_anything (by rw [hf]) (by rw [hf])
  rw [hf] at this
  exact this

lemma adds_wildcard (hf : r.frame.flags = { ignoreCase := b }) (hd : r.depth ≤ 100) :
    r.Adds (bareTokens (.token .wildcard))
      (bareNodes (casingOf b) r.groups.length (.token .wildcard)) 1 := by
  have hlimit : r.depth + 2 ≤ Parser.depthLimit := by
    rw [Parser.depthLimit]
    omega
  exact Parser.adds_capture hlimit (adds_anything (r := r.entered _ _) hf).fills

lemma adds_trailing (hf : r.frame.flags = { ignoreCase := b }) (hd : r.depth ≤ 98) :
    r.Adds (.openCapture none :: (.char 47 :: anythingTokens ++
      [.close, .quantifier .greedy 0 (some 1)]))
      [trailingNode (casingOf b) (r.groups.length + 1)] 1 := by
  have hlimit : r.depth + 2 ≤ Parser.depthLimit := by
    rw [Parser.depthLimit]
    omega
  let inner := r.entered (.capture (r.groups.length + 1)) [none]
  have hinner := (adds_lead (q := inner) hf true '/').append fun parts widths hw =>
    adds_anything (r := inner.grown parts widths) hf
  exact Parser.adds_optionalCapture hlimit (by rw [hf]) hinner.fills

lemma adds_bare (hq : isBare q) (hf : r.frame.flags = { ignoreCase := b }) (hd : r.depth ≤ 98) :
    r.Adds (bareTokens q) (bareNodes (casingOf b) r.groups.length q) (bareSlots q).length := by
  rcases q with c | ⟨p | c | name | _ | _⟩
  · exact adds_lead hf true c
  · have hparam := adds_param hf hd p
    cases hs : p.star with
    | false => simpa [bareTokens, bareNodes, bareSlots, hs] using hparam
    | true =>
      have := hparam.append fun parts widths hw => by
        have := adds_trailing (r := r.grown parts widths) hf hd
        rwa [Parser.grown_groups, List.length_append, hw] at this
      simpa [bareTokens, bareNodes, bareSlots, hs] using this
  · exact absurd hq Bool.false_ne_true
  · exact absurd hq Bool.false_ne_true
  · exact adds_lead hf true '.'
  · exact adds_wildcard hf (by omega)

/-- The parts of bare pieces are added one after the other. -/
theorem adds_bares (h : ps.all isBare) (hf : r.frame.flags = { ignoreCase := b })
    (hd : r.depth ≤ 98) : r.Adds (ps.flatMap bareTokens)
      (bareNodesOf (casingOf b) r.groups.length ps) (ps.flatMap bareSlots).length := by
  induction ps generalizing r with
  | nil => exact .nil r
  | cons q ps ih =>
    rw [List.all_cons, Bool.and_eq_true] at h
    rw [List.flatMap_cons, List.flatMap_cons, List.length_append, bareNodesOf]
    refine (adds_bare h.1 hf hd).append fun parts widths hw => ?_
    have := ih (r := r.grown parts widths) h.2 hf hd
    rwa [Parser.grown_groups, List.length_append, hw] at this

end Adds

lemma isUniform_presentNodes (p : Param) (casing : Casing) (index : Nat) :
    (p.presentNodes casing index).all (Node.isUniform casing) := by
  unfold Param.presentNodes
  cases p.slash <;> cases p.dot <;>
    simp [charNode, Param.captureNode, Node.ofParts, Node.isUniform]

lemma isUniform_nodes (p : Param) (casing : Casing) (index : Nat) :
    (p.nodes casing index).all (Node.isUniform casing) := by
  have h := isUniform_presentNodes p casing index
  unfold Param.nodes
  split
  · rw [List.all_cons, Node.isUniform, Node.isUniform_ofParts, h]
    rfl
  · exact h

lemma isUniform_bareNodes (casing : Casing) (count : Nat) (q : Piece Fragment) :
    (bareNodes casing count q).all (Node.isUniform casing) := by
  have hchar (c : Char) : (charNode casing c).isUniform casing := by
    simp [charNode, Node.isUniform]
  have hanything : (anythingNode casing).isUniform casing := by
    simp [anythingNode, Node.isUniform]
  rcases q with c | ⟨p | c | name | _ | _⟩
  · simp [bareNodes, hchar]
  · rw [bareNodes, List.all_append, isUniform_nodes, Bool.true_and]
    split
    · simp [trailingNode, Node.ofParts, Node.isUniform, hchar, hanything]
    · rfl
  · rfl
  · rfl
  · simp [bareNodes, hchar]
  · simp [bareNodes, Node.ofParts, Node.isUniform, hanything]

/-- Bare pieces look at nothing but what they take, and treat case in one way. -/
theorem isUniform_bareNodesOf (casing : Casing) (count : Nat) (ps : List (Piece Fragment)) :
    (Node.ofParts (bareNodesOf casing count ps)).isUniform casing := by
  rw [Node.isUniform_ofParts]
  induction ps generalizing count with
  | nil => rfl
  | cons q ps ih => rw [bareNodesOf, List.all_append, isUniform_bareNodes, ih, Bool.and_self]

lemma isLocal_bareNodesOf (casing : Casing) (count : Nat) (ps : List (Piece Fragment)) :
    (Node.ofParts (bareNodesOf casing count ps)).isLocal :=
  Node.isLocal_of_isUniform (isUniform_bareNodesOf casing count ps)

def barePattern (caseSensitive strict : Bool) (s : String) : Pattern :=
  patternOf (.text s) (!caseSensitive) strict (images (Fragment.scanner.pieces s.toList))
    (bareNodesOf (casingOf !caseSensitive) 0 (Fragment.scanner.pieces s.toList))
    ((Fragment.scanner.pieces s.toList).flatMap bareSlots)

/-- A bare path is compiled to the parts of its pieces. -/
theorem compile_bare (caseSensitive strict : Bool) {s : String} (h : isBarePath s.toList) :
    Pattern.compile caseSensitive strict (.text s) = .ok (barePattern caseSensitive strict s) := by
  have hbasic : (bareNodesOf (casingOf !caseSensitive) 0
      (Fragment.scanner.pieces s.toList)).all Node.isBasic := by
    rw [← Node.isStructural_isBasic.ofParts]
    exact Node.isBasic_of_isLocal (isLocal_bareNodesOf _ 0 _)
  have hcompile := compile_path (b := !caseSensitive) strict
    (fun rest us hr ht => lexes_images h hr ht)
    (fun r hf hd hn => by
      have := adds_bares h hf (by omega)
      rwa [hn] at this)
    hbasic
  rw [Pattern.compile, Pattern.ofText, ofPieces_bare h]
  simp only [bind, Except.bind]
  rw [hcompile]
  rfl

end Path

end ActionRouting
