import ActionRouting.Proofs.Path.Origins
import ActionRouting.Proofs.Path.Segments
import ActionRouting.Proofs.Regex.Reading

/-! The regular expression that a path of segments is compiled to: its text, its tokens and its
parts. -/
namespace ActionRouting

namespace Path

open Text Regex

/-- A part that is a slash or literal, or a parameter that captures what it captures by default. -/
def isDefault : Piece Param → Bool
  | .plain c => isLiteral c || c == '/'
  | .token p => p.capture.isNone && !p.star

/-- A part that is a slash or a character of a kind, or a parameter that captures what it captures
by default. -/
def isPartOver (kind : Char → Bool) : Piece Param → Bool
  | .plain c => kind c || c == '/'
  | .token p => p.capture.isNone && !p.star

/-- The regular expression of some parts, as it is written. -/
def expression (ps : List (Piece Param)) : List Char :=
  ps.flatMap fun
    | .plain c => [c]
    | .token p => (Fragment.param p).image

def slotsOf (ps : List (Piece Param)) : List Slot :=
  ps.filterMap fun
    | .plain _ => none
    | .token p => some ⟨some (String.ofList p.name), p.optional⟩

/-- The characters that the capture of a parameter leaves out. -/
def Param.barred (p : Param) : List Member :=
  if p.dot then [.char 47, .char 46] else [.char 47]

/-- The tokens of a capture and of the plain group around it. -/
def Param.captureTokens (p : Param) : List Token :=
  (if p.dot then [.char 46] else []) ++ [.openCapture none, .set true p.barred,
    .quantifier .lazy 1 none, .close, .close]

def tokensOf : Piece Param → List Token
  | .plain c => [.char c.toNat]
  | .token p =>
    if p.optional then
      .openPlain {} {} :: ((if p.slash then [.char 47] else []) ++ p.captureTokens) ++
        [.quantifier .greedy 0 (some 1)]
    else (if p.slash then [.char 47] else []) ++ .openPlain {} {} :: p.captureTokens

def charNode (casing : Casing) (c : Char) : Node := .chars ⟨false, [.char c.toNat], casing, false⟩

def Param.captureNode (p : Param) (casing : Casing) (index : Nat) : Node :=
  .group index (.ofParts [.loop false 1 none (.chars ⟨true, p.barred, casing, false⟩)])

/-- The parts of a parameter that is there: what stands before its value, and its capture. -/
def Param.presentNodes (p : Param) (casing : Casing) (index : Nat) : List Node :=
  (if p.slash then [charNode casing '/'] else []) ++
    ((if p.dot then [charNode casing '.'] else []) ++ [p.captureNode casing index])

def Param.nodes (p : Param) (casing : Casing) (index : Nat) : List Node :=
  if p.optional then [.loop true 0 (some 1) (.ofParts (p.presentNodes casing index))]
  else p.presentNodes casing index

/-- The parts of a regular expression, whose capture groups have numbers above `count`. -/
def nodesOf (casing : Casing) : Nat → List (Piece Param) → List Node
  | _, [] => []
  | count, .plain c :: ps => charNode casing c :: nodesOf casing count ps
  | count, .token p :: ps => p.nodes casing (count + 1) ++ nodesOf casing (count + 1) ps

/-- The branches of a choice among paths, whose capture groups have numbers above `count`. -/
def branchesOf (casing : Casing) : Nat → List (List (Piece Param)) → List (List Node)
  | _, [] => []
  | count, ps :: paths =>
    nodesOf casing count ps :: branchesOf casing (count + (slotsOf ps).length) paths

/-- How many capture groups there are. -/
def holesOf (ps : List (Piece Param)) : Nat := (slotsOf ps).length

lemma readToken_free {c : Char} (h : isFree c) (cs : List Char) :
    readToken c cs = (.char c.toNat, cs) := by
  unfold readToken
  split <;> first | exact absurd h (by decide) | rfl

/-- What may follow a parameter in a regular expression. -/
def endsPart (cs : List Char) : Bool := cs.head?.all fun c => c != '?' && c != '+'

section Lexes

variable {rest : List Char} {ts : List Token}

lemma lexes_slash (h : Lexes rest ts) (b : Bool) :
    Lexes ((if b then ['/'] else []) ++ rest) ((if b then [.char 47] else []) ++ ts) := by
  cases b with
  | false => exact h
  | true => exact .cons rfl (Nat.le_refl _) (isQuiet_char _) h

lemma lexes_dot (h : Lexes rest ts) (b : Bool) :
    Lexes ((if b then ['\\', '.'] else []) ++ rest) ((if b then [.char 46] else []) ++ ts) := by
  cases b with
  | false => exact h
  | true => exact .cons rfl (Nat.le_succ _) (isQuiet_char _) h

lemma lexes_open (h : Lexes rest ts) :
    Lexes ('(' :: '?' :: ':' :: rest) (.openPlain {} {} :: ts) :=
  .cons rfl (by simp; omega) isQuiet_openPlain h

lemma lexes_query (hr : endsPart rest) (h : Lexes rest ts) :
    Lexes ('?' :: rest) (.quantifier .greedy 0 (some 1) :: ts) := by
  refine .cons (readToken_query ?_ ?_) (Nat.le_refl _) (.of_eq fun _ => rfl) h
  · rintro he
    rw [endsPart, he] at hr
    exact absurd hr (by decide)
  · rintro he
    rw [endsPart, he] at hr
    exact absurd hr (by decide)

lemma segmentCapture_eq :
    Pattern.segmentCapture = ['(', '[', '^', '/', ']', '+', '?', ')'] := rfl

lemma formatCapture_eq :
    Pattern.formatCapture = ['(', '[', '^', '/', '.', ']', '+', '?', ')'] := rfl

lemma lexes_capture {p : Param} (hp : p.capture = none) (h : Lexes rest ts) :
    Lexes (p.captureText ++ ')' :: rest) ([.openCapture none, .set true p.barred,
      .quantifier .lazy 1 none, .close, .close] ++ ts) := by
  have hclose : Lexes ('+' :: '?' :: ')' :: ')' :: rest)
      (.quantifier .lazy 1 none :: .close :: .close :: ts) :=
    .cons rfl (Nat.le_succ _) (.of_eq fun _ => rfl) (.cons rfl (Nat.le_refl _) isQuiet_close
      (.cons rfl (Nat.le_refl _) isQuiet_close h))
  rw [Param.captureText, hp, Param.barred]
  dsimp only
  split
  · rw [formatCapture_eq]
    exact .cons rfl (Nat.le_refl _) (isQuiet_openCapture _)
      (.cons rfl (by simp) (.of_eq fun _ => rfl) hclose)
  · rw [segmentCapture_eq]
    exact .cons rfl (Nat.le_refl _) (isQuiet_openCapture _)
      (.cons rfl (by simp) (.of_eq fun _ => rfl) hclose)

lemma lexes_image {p : Param} (hp : p.capture = none) (hs : p.star = false)
    (hr : p.optional → endsPart rest) (h : Lexes rest ts) :
    Lexes ((Fragment.param p).image ++ rest) (tokensOf (.token p) ++ ts) := by
  have hopen : "(?:".toList = ['(', '?', ':'] := rfl
  cases ho : p.optional with
  | true =>
    have := lexes_open (lexes_slash (lexes_dot (lexes_capture hp (lexes_query (hr ho) h)) p.dot)
      p.slash)
    simpa [Fragment.image, Param.head, Param.foot, tokensOf, Param.captureTokens, ho, hs, hopen]
      using this
  | false =>
    have := lexes_slash (lexes_open (lexes_dot (lexes_capture hp h) p.dot)) p.slash
    simpa [Fragment.image, Param.head, Param.foot, tokensOf, Param.captureTokens, ho, hs, hopen]
      using this

lemma endsPart_expression {ps : List (Piece Param)} (hp : ps.all (isPartOver isFree))
    (hr : endsPart rest) : endsPart (expression ps ++ rest) := by
  cases ps with
  | nil => exact hr
  | cons q ps =>
    rw [List.all_cons, Bool.and_eq_true] at hp
    cases q with
    | plain c =>
      have hc : c ≠ '?' ∧ c ≠ '+' := by
        have hd := hp.1
        simp only [isPartOver, Bool.or_eq_true, beq_iff_eq] at hd
        rcases hd with hd | rfl
        · exact ⟨isFree_ne hd (by decide), isFree_ne hd (by decide)⟩
        · decide
      simp [expression, endsPart, hc.1, hc.2]
    | token p =>
      have hopen : "(?:".toList = ['(', '?', ':'] := rfl
      cases ho : p.optional <;> cases hs : p.slash <;>
        simp [expression, endsPart, Fragment.image, Param.head, ho, hs, hopen]

lemma lexes_expression {ps : List (Piece Param)} (hp : ps.all (isPartOver isFree))
    (hr : endsPart rest) (h : Lexes rest ts) :
    Lexes (expression ps ++ rest) (ps.flatMap tokensOf ++ ts) := by
  induction ps with
  | nil => exact h
  | cons q ps ih =>
    rw [List.all_cons, Bool.and_eq_true] at hp
    have ih := ih hp.2
    have he := endsPart_expression hp.2 hr
    cases q with
    | plain c =>
      have hread : readToken c (expression ps ++ rest) =
          (.char c.toNat, expression ps ++ rest) := by
        have hd := hp.1
        simp only [isPartOver, Bool.or_eq_true, beq_iff_eq] at hd
        rcases hd with hd | rfl
        · exact readToken_free hd _
        · rfl
      exact .cons hread (Nat.le_refl _) (isQuiet_char _) ih
    | token p =>
      have hd := hp.1
      simp only [isPartOver, Bool.and_eq_true, Option.isNone_iff_eq_none,
        Bool.not_eq_true'] at hd
      have := lexes_image hd.1 hd.2 (fun _ => he) ih
      simpa [expression] using this

lemma lexes_alternatives (hr : endsPart rest) (h : Lexes rest ts) {ps : List (Piece Param)}
    {paths : List (List (Piece Param))} (hp : ∀ ps' ∈ ps :: paths, ps'.all (isPartOver isFree)) :
    Lexes (['|'].intercalate ((ps :: paths).map expression) ++ rest)
      ([.bar].intercalate ((ps :: paths).map (·.flatMap tokensOf)) ++ ts) := by
  induction paths generalizing ps with
  | nil =>
    have := lexes_expression (hp ps List.mem_cons_self) hr h
    simpa [List.intercalate] using this
  | cons ps' paths ih =>
    have ih := ih fun qs (hq : qs ∈ ps' :: paths) => hp qs (List.mem_cons_of_mem _ hq)
    have hbar : Lexes ('|' :: (['|'].intercalate ((ps' :: paths).map expression) ++ rest))
        (.bar :: ([.bar].intercalate ((ps' :: paths).map (·.flatMap tokensOf)) ++ ts)) :=
      .cons rfl (Nat.le_refl _) (.of_eq fun _ => rfl) ih
    have := lexes_expression (hp ps List.mem_cons_self) (by rfl) hbar
    simpa [List.intercalate] using this

/-- An opening parenthesis without an extension. -/
lemma readToken_open {cs : List Char} (h : cs.head? ≠ some '?') :
    readToken '(' cs = (.openCapture none, cs) := by
  have : readOpening cs = .ok (.openCapture none, cs) := by
    unfold readOpening
    split <;> first | exact absurd rfl h | rfl
  simp [readToken, this, orBad]

/-- The regular expression of several paths, of which any may match. -/
def jointExpression (paths : List (List (Piece Param))) : List Char :=
  '(' :: (['|'].intercalate (paths.map expression) ++ [')'])

lemma endsPart_alternatives (hr : endsPart rest) {paths : List (List (Piece Param))}
    (hp : ∀ ps ∈ paths, ps.all (isPartOver isFree)) :
    endsPart (['|'].intercalate (paths.map expression) ++ rest) := by
  cases paths with
  | nil => exact hr
  | cons ps paths =>
    have hps := hp ps List.mem_cons_self
    cases paths with
    | nil => simpa [List.intercalate] using endsPart_expression hps hr
    | cons ps' paths =>
      have : endsPart (expression ps ++
          '|' :: (['|'].intercalate ((ps' :: paths).map expression) ++ rest)) :=
        endsPart_expression hps (by rfl)
      simpa [List.intercalate] using this

lemma lexes_joint (h : Lexes rest ts) {ps : List (Piece Param)}
    {paths : List (List (Piece Param))} (hp : ∀ ps' ∈ ps :: paths, ps'.all (isPartOver isFree)) :
    Lexes (jointExpression (ps :: paths) ++ rest) ((.openCapture none ::
      ([.bar].intercalate ((ps :: paths).map (·.flatMap tokensOf)) ++ [.close])) ++ ts) := by
  have hclose : Lexes (')' :: rest) (.close :: ts) := .cons rfl (Nat.le_refl _) isQuiet_close h
  have hends : endsPart (['|'].intercalate ((ps :: paths).map expression) ++ ')' :: rest) :=
    endsPart_alternatives (by rfl) hp
  have hopen : (['|'].intercalate ((ps :: paths).map expression) ++ ')' :: rest).head? ≠
      some '?' := by
    intro he
    rw [endsPart, he] at hends
    exact absurd hends (by decide)
  have := Lexes.cons (readToken_open hopen) (Nat.le_refl _) (isQuiet_openCapture _)
    (lexes_alternatives (by rfl) hclose hp)
  simpa [jointExpression] using this

end Lexes

section Adds

variable {q : Parser} {b : Bool}

def casingOf (ignoreCase : Bool) : Casing := if ignoreCase then .unicode else .exact

lemma adds_lead (hf : q.frame.flags = { ignoreCase := b }) (t : Bool) (c : Char) :
    q.Adds (if t then [.char c.toNat] else []) (if t then [charNode (casingOf b) c] else []) 0 := by
  cases t with
  | false => exact .nil q
  | true =>
    have := q.adds_char c.toNat
    rw [hf] at this
    exact this

lemma adds_captureNode (hf : q.frame.flags = { ignoreCase := b }) (hd : q.depth ≤ 100)
    (p : Param) : q.Adds [.openCapture none, .set true p.barred, .quantifier .lazy 1 none, .close]
      [p.captureNode (casingOf b) (q.groups.length + 1)] 1 := by
  have hm : p.barred.eraseDups = p.barred := by
    unfold Param.barred
    split <;> decide
  have hlimit : q.depth + 2 ≤ Parser.depthLimit := by
    rw [Parser.depthLimit]
    omega
  have := (q.entered (.capture (q.groups.length + 1)) [none]).adds_lazy true hm (by rw [
    Parser.entered_flags, hf])
  have := Parser.adds_capture hlimit this.fills
  rw [Parser.entered_flags, hf] at this
  exact this

/-- What stands before the value of a parameter is read, and then its capture. -/
lemma adds_present (hf : q.frame.flags = { ignoreCase := b }) (hd : q.depth ≤ 100) (p : Param)
    (slash : Bool) :
    q.Adds ((if slash then [.char 47] else []) ++ ((if p.dot then [.char 46] else []) ++
        [.openCapture none, .set true p.barred, .quantifier .lazy 1 none, .close]))
      ((if slash then [charNode (casingOf b) '/'] else []) ++
        ((if p.dot then [charNode (casingOf b) '.'] else []) ++
          [p.captureNode (casingOf b) (q.groups.length + 1)])) 1 := by
  have hcapture (r : Parser) (hr : r.frame.flags = { ignoreCase := b }) (hrd : r.depth ≤ 100)
      (hg : r.groups.length = q.groups.length) :
      r.Adds [.openCapture none, .set true p.barred, .quantifier .lazy 1 none, .close]
        [p.captureNode (casingOf b) (q.groups.length + 1)] 1 := by
    rw [← hg]
    exact adds_captureNode hr hrd p
  have hdot (r : Parser) (hr : r.frame.flags = { ignoreCase := b }) (hrd : r.depth ≤ 100)
      (hg : r.groups.length = q.groups.length) :=
    (adds_lead hr p.dot '.').append fun parts widths hw =>
      hcapture (r.grown parts widths) hr hrd (by simp [hw, hg])
  exact (adds_lead hf slash '/').append fun parts widths hw =>
    hdot (q.grown parts widths) hf hd (by simp [hw])

lemma inside_nothing : ({ ignoreCase := b } : Flags).inside {} {} = { ignoreCase := b } := by
  cases b <;> rfl

lemma inLoop_presentNodes (p : Param) (casing : Casing) (index : Nat) :
    (Node.ofParts (p.presentNodes casing index)).inLoop =
      .ofParts (p.presentNodes casing index) := by
  unfold Param.presentNodes
  cases p.slash <;> cases p.dot <;> rfl

lemma adds_param (hf : q.frame.flags = { ignoreCase := b }) (hd : q.depth ≤ 98) (p : Param) :
    q.Adds (tokensOf (.token p)) (p.nodes (casingOf b) (q.groups.length + 1)) 1 := by
  have hlimit : q.depth + 2 ≤ Parser.depthLimit := by
    rw [Parser.depthLimit]
    omega
  have hi : q.frame.flags.inside {} {} = q.frame.flags := by rw [hf, inside_nothing]
  have hdepth : (q.entered .plain []).depth ≤ 100 := by
    rw [Parser.entered_depth]
    change 2 + q.depth ≤ 100
    omega
  have hinner (r : Parser) (hr : r.frame.flags = { ignoreCase := b }) (hrd : r.depth = q.depth)
      (hg : r.groups.length = q.groups.length) (slash : Bool) :=
    (adds_present (q := r.entered .plain []) hr (by
      rw [Parser.entered_depth, hrd]
      change 2 + q.depth ≤ 100
      omega) p slash).fills
  cases ho : p.optional with
  | true =>
    have := Parser.adds_optional hlimit hi (by rw [hf]) (hinner q hf rfl rfl p.slash)
    rw [Parser.entered_groups, List.append_nil] at this
    have hn := inLoop_presentNodes p (casingOf b) (q.groups.length + 1)
    rw [Param.presentNodes] at hn
    rw [hn] at this
    simpa [tokensOf, Param.captureTokens, Param.nodes, Param.presentNodes, ho] using this
  | false =>
    have hplain (r : Parser) (hr : r.frame.flags = { ignoreCase := b }) (hrd : r.depth = q.depth)
        (hg : r.groups.length = q.groups.length) :
        r.Adds (.openPlain {} {} :: p.captureTokens)
          ((if p.dot then [charNode (casingOf b) '.'] else []) ++
            [p.captureNode (casingOf b) (q.groups.length + 1)]) 1 := by
      have := Parser.adds_plain (by rwa [hrd]) (by rw [hr, inside_nothing])
        (hinner r hr hrd hg false)
      rw [Parser.entered_groups, List.append_nil, hg] at this
      simpa [Param.captureTokens] using this
    have := (adds_lead hf p.slash '/').append fun parts widths hw =>
      hplain (q.grown parts widths) hf rfl (by simp [hw])
    simpa [tokensOf, Param.captureTokens, Param.nodes, Param.presentNodes, ho] using this

/-- The parts of a path are read one after the other. -/
theorem adds_pieces (hf : q.frame.flags = { ignoreCase := b }) (hd : q.depth ≤ 98)
    (ps : List (Piece Param)) :
    q.Adds (ps.flatMap tokensOf) (nodesOf (casingOf b) q.groups.length ps) (holesOf ps) := by
  induction ps generalizing q with
  | nil => exact .nil q
  | cons r ps ih =>
    have hrest (r : Parser) (hr : r.frame.flags = { ignoreCase := b }) (hrd : r.depth ≤ 98)
        (n : Nat) (hg : r.groups.length = n) :
        r.Adds (ps.flatMap tokensOf) (nodesOf (casingOf b) n ps) (holesOf ps) := by
      rw [← hg]
      exact ih hr hrd
    cases r with
    | plain c =>
      have := (adds_lead hf true c).append fun parts widths hw =>
        hrest (q.grown parts widths) hf hd q.groups.length (by simp [hw])
      rwa [Nat.zero_add] at this
    | token p =>
      have := (adds_param hf hd p).append fun parts widths hw =>
        hrest (q.grown parts widths) hf hd (q.groups.length + 1) (by simp [hw])
      rwa [Nat.add_comm 1 (holesOf ps)] at this

/-- The paths of a choice are read one after the other, and become its branches. -/
lemma fills_branches (hf : q.frame.flags = { ignoreCase := b }) (hd : q.depth ≤ 98) {index : Nat}
    (ho : q.frame.opening = .capture index) (hp : q.frame.parts = []) (ps : List (Piece Param))
    (paths : List (List (Piece Param))) :
    q.Fills ([.bar].intercalate ((ps :: paths).map (·.flatMap tokensOf)))
      (Node.ofBranches (q.frame.branches.reverse ++
        branchesOf (casingOf b) q.groups.length (ps :: paths)))
      ((ps :: paths).flatMap slotsOf).length := by
  induction paths generalizing q ps with
  | nil =>
    obtain ⟨parts, widths, hrun, hnodes, hcount⟩ := adds_pieces hf hd ps
    have hbranch := Parser.branch_grown q parts widths
    rw [hnodes, show q.frame.branch = [] by simp [Frame.branch, hp], List.nil_append] at hbranch
    refine ⟨(q.grown parts widths).frame, widths, ?_, rfl, ?_, by simp [hcount, holesOf]⟩
    · have htokens : [Token.bar].intercalate ([ps].map (·.flatMap tokensOf)) =
          ps.flatMap tokensOf := by
        simp [List.intercalate]
      rw [htokens]
      exact hrun
    · rw [Frame.nodes, hbranch, List.reverse_cons]
      rfl
  | cons ps' paths ih =>
    obtain ⟨parts, widths, hrun, hnodes, hcount⟩ := adds_pieces hf hd ps
    have hbranch := Parser.branch_grown q parts widths
    rw [hnodes, show q.frame.branch = [] by simp [Frame.branch, hp], List.nil_append] at hbranch
    let next : Parser := { q.grown parts widths with frame :=
      { (q.grown parts widths).frame with
        branches := (q.grown parts widths).frame.branch :: (q.grown parts widths).frame.branches
        parts := [] } }
    have hbar : (q.grown parts widths).step .bar = .ok next := Parser.step_bar ho
    obtain ⟨frame, more, hrun', hopen, hnodes', hcount'⟩ := ih (q := next) hf hd ho rfl ps'
    have hgroups : next.groups = q.groups ++ widths := rfl
    refine ⟨frame, widths ++ more, ?_, hopen, ?_, ?_⟩
    · have htokens : [Token.bar].intercalate ((ps :: ps' :: paths).map (·.flatMap tokensOf)) =
          ps.flatMap tokensOf ++ .bar ::
            [Token.bar].intercalate ((ps' :: paths).map (·.flatMap tokensOf)) := by
        simp [List.intercalate]
      rw [htokens, Parser.run_append, hrun]
      change Parser.run _ (.bar :: _) = _
      rw [Parser.run_cons, hbar, ← List.append_assoc]
      exact hrun'
    · have hlen : next.groups.length = q.groups.length + (slotsOf ps).length := by
        rw [hgroups, List.length_append, hcount, holesOf]
      have hdone : next.frame.branches.reverse =
          q.frame.branches.reverse ++ [nodesOf (casingOf b) q.groups.length ps] := by
        rw [← hbranch]
        exact List.reverse_cons
      rw [hnodes', hdone, hlen, List.append_assoc]
      rfl
    · rw [List.length_append, hcount, hcount', holesOf, ← List.length_append]
      rfl

/-- The parts of a choice among paths are read as one capture group. -/
lemma adds_joint (hf : q.frame.flags = { ignoreCase := b }) (hd : q.depth = 0)
    (hg : q.groups.length = 0) (ps : List (Piece Param)) (paths : List (List (Piece Param))) :
    q.Adds (.openCapture none ::
        ([Token.bar].intercalate ((ps :: paths).map (·.flatMap tokensOf)) ++ [.close]))
      [.group 1 (.ofParts (Node.ofBranches (branchesOf (casingOf b) 1 (ps :: paths))))]
      (1 + ((ps :: paths).flatMap slotsOf).length) := by
  have hlimit : q.depth + 2 ≤ Parser.depthLimit := by
    rw [Parser.depthLimit]
    omega
  have := Parser.adds_capture hlimit (fills_branches (q := q.entered (.capture _) [none]) hf (by
    rw [Parser.entered_depth, hd]
    exact (by decide : 2 + 0 ≤ 98)) rfl rfl ps paths)
  rw [Parser.entered_groups, List.length_append, hg] at this
  exact this

end Adds

def endNodes (casing : Casing) (strict : Bool) : List Node :=
  (if strict then [] else [.loop true 0 (some 1) (charNode casing '/')]) ++ [.anchor .finalLineEnd]

/-- The regular expression of a path, by the text, the parts and the number of its groups. -/
def matcherOf (b strict : Bool) (text : List Char) (nodes : List Node) (count : Nat) : Regex where
  source := String.ofList ('^' :: text ++ (if strict then [] else ['/', '?']) ++ ['$'])
  flags := { ignoreCase := b }
  root := .ofParts (.anchor .textStart :: (nodes ++ endNodes (casingOf b) strict))
  groupCount := count
  names := []

/-- A path whose text is read as basic parts is compiled to them. -/
lemma compile_path {b : Bool} (strict : Bool) {text : List Char} {ts : List Token}
    {nodes : List Node} {count : Nat}
    (hl : ∀ rest us, endsPart rest → Lexes rest us → Lexes (text ++ rest) (ts ++ us))
    (ha : ∀ q : Parser, q.frame.flags = { ignoreCase := b } → q.depth = 0 → q.groups.length = 0 →
      q.Adds ts nodes count)
    (hb : nodes.all Node.isBasic) :
    compile { ignoreCase := b }
        (String.ofList ('^' :: text ++ (if strict then [] else ['/', '?']) ++ ['$'])) =
      .ok (matcherOf b strict text nodes count) := by
  have hlexes : Lexes ('^' :: (text ++ ((if strict then [] else ['/', '?']) ++ ['$'])))
      (.caret :: (ts ++ ((if strict then [] else [.char 47, .quantifier .greedy 0 (some 1)]) ++
        [.dollar]))) := by
    have hdollar : Lexes ['$'] [.dollar] := .cons rfl (Nat.le_refl _) (.of_eq fun _ => rfl) .nil
    refine .cons rfl (Nat.le_refl _) (.of_eq fun _ => rfl) (hl _ _ ?_ ?_)
    · cases strict <;> rfl
    · cases strict with
      | true => exact hdollar
      | false =>
        exact .cons rfl (Nat.le_refl _) (isQuiet_char _) (lexes_query (by rfl) hdollar)
  have hend (q : Parser) (hf : q.frame.flags = { ignoreCase := b }) :
      q.Adds ((if strict then [] else [.char 47, .quantifier .greedy 0 (some 1)]) ++ [.dollar])
        (endNodes (casingOf b) strict) (0 + 0) := by
    refine Parser.Adds.append ?_ fun parts widths hw => (q.grown parts widths).adds_dollar (by
      rw [Parser.grown_flags, hf])
    cases strict with
    | true => exact .nil q
    | false =>
      have := q.adds_optionalChar 47 (by rw [hf])
      rw [hf] at this
      exact this
  have hadds : (Parser.start { ignoreCase := b }).Adds
      ([.caret] ++ (ts ++ ((if strict then [] else [.char 47, .quantifier .greedy 0 (some 1)]) ++
        [.dollar]))) ([.anchor .textStart] ++ (nodes ++ endNodes (casingOf b) strict))
      (0 + (count + (0 + 0))) :=
    (Parser.adds_caret _ rfl).append fun parts widths hw =>
      (ha _ rfl rfl (by rw [Parser.grown_groups, List.length_append, hw]; rfl)).append
        fun parts' widths' hw' => hend _ rfl
  rw [Nat.zero_add, Nat.add_zero] at hadds
  have hbasic : (nodes ++ endNodes (casingOf b) strict).all Node.isBasic := by
    rw [List.all_append, hb]
    cases strict <;> rfl
  have hsource : '^' :: text ++ (if strict then [] else ['/', '?']) ++ ['$'] =
      '^' :: (text ++ ((if strict then [] else ['/', '?']) ++ ['$'])) := by simp
  rw [matcherOf, hsource]
  exact compile_of_adds rfl rfl (by rw [String.toList_ofList]; exact hlexes) hadds hbasic

lemma isBasic_presentNodes (p : Param) (casing : Casing) (index : Nat) :
    (p.presentNodes casing index).all Node.isBasic := by
  unfold Param.presentNodes
  cases p.slash <;> cases p.dot <;> rfl

lemma isBasic_nodes (p : Param) (casing : Casing) (index : Nat) :
    (p.nodes casing index).all Node.isBasic := by
  have h := isBasic_presentNodes p casing index
  unfold Param.nodes
  split
  · rw [← Node.isStructural_isBasic.ofParts] at h
    rw [List.all_cons, Node.isBasic, h]
    rfl
  · exact h

lemma isBasic_nodesOf (casing : Casing) (count : Nat) (ps : List (Piece Param)) :
    (nodesOf casing count ps).all Node.isBasic := by
  induction ps generalizing count with
  | nil => rfl
  | cons q ps ih =>
    cases q with
    | plain c => exact ih count
    | token p => rw [nodesOf, List.all_append, isBasic_nodes, ih, Bool.and_self]

lemma isBasic_branchesOf (casing : Casing) (count : Nat) (paths : List (List (Piece Param))) :
    ∀ ns ∈ branchesOf casing count paths, ns.all Node.isBasic := by
  induction paths generalizing count with
  | nil => simp [branchesOf]
  | cons ps paths ih =>
    rw [branchesOf, List.forall_mem_cons]
    exact ⟨isBasic_nodesOf casing count ps, ih _⟩

lemma ofPieces_append {ps qs : List (Piece Fragment)} {r r' : Pattern.Piece}
    (h : Pattern.ofPieces ps = .ok r) (h' : Pattern.ofPieces qs = .ok r') :
    Pattern.ofPieces (ps ++ qs) = .ok (r.1 ++ r'.1, r.2 ++ r'.2) := by
  induction ps generalizing r with
  | nil =>
    cases h
    exact h'
  | cons p ps ih =>
    cases p with
    | plain c =>
      rw [Pattern.ofPieces] at h
      rw [List.cons_append, Pattern.ofPieces]
      cases hps : Pattern.ofPieces ps with
      | error e =>
        rw [hps] at h
        cases h
      | ok first =>
        rw [hps] at h
        cases h
        rw [ih hps]
        rfl
    | token f =>
      rw [Pattern.ofPieces] at h
      rw [List.cons_append, Pattern.ofPieces]
      cases hf : Pattern.ofFragment f with
      | error e =>
        rw [hf] at h
        cases h
      | ok own =>
        cases hps : Pattern.ofPieces ps with
        | error e =>
          rw [hf, hps] at h
          cases h
        | ok first =>
          rw [hf, hps] at h
          cases h
          rw [ih hps]
          simp [bind, Except.bind]

lemma ofParam_of_capture {p : Param} (hc : p.capture = none) : Pattern.ofParam p =
    .ok ((Fragment.param p).image, ⟨some (String.ofList p.name), p.optional⟩ ::
      if p.star then [⟨none, true⟩] else []) := by
  rw [Pattern.ofParam, Pattern.capture, hc, Fragment.image, Param.head, Param.captureText, hc,
    Param.foot]
  cases p.optional <;> cases p.slash <;> simp [bind, Except.bind]

lemma ofParam_default {p : Param} (hc : p.capture = none) (hs : p.star = false) :
    Pattern.ofParam p =
      .ok ((Fragment.param p).image, [⟨some (String.ofList p.name), p.optional⟩]) := by
  rw [ofParam_of_capture hc, hs]
  rfl

lemma ofPieces_parts {ps : List (Piece Param)} (hp : ps.all (isPartOver isFree)) :
    Pattern.ofPieces (ps.map (image .param)) = .ok (expression ps, slotsOf ps) := by
  induction ps with
  | nil => rfl
  | cons q ps ih =>
    rw [List.all_cons, Bool.and_eq_true] at hp
    have ih := ih hp.2
    cases q with
    | plain c =>
      rw [List.map_cons, image, Pattern.ofPieces, ih]
      rfl
    | token p =>
      have hd := hp.1
      simp only [isPartOver, Bool.and_eq_true, Option.isNone_iff_eq_none,
        Bool.not_eq_true'] at hd
      rw [List.map_cons, image, Pattern.ofPieces, Pattern.ofFragment, ofParam_default hd.1 hd.2,
        ih]
      rfl

section Kinds

variable {kind : Char → Bool}

lemma isPartOver_hole (h : Hole) (slash dot : Bool) :
    isPartOver kind (.token (h.param slash dot)) := rfl

lemma isPartOver_plains {u : List Char} (hu : u.all kind) :
    (u.map Piece.plain).all (isPartOver kind) := by
  rw [List.all_map, List.all_eq_true]
  intro c hc
  have := List.all_eq_true.mp hu c hc
  simp [isPartOver, this]

lemma isPartOver_slashed {ps : List (Piece Param)} (hp : ps.all (isPartOver kind)) :
    (slashed ps).all (isPartOver kind) := by
  cases ps with
  | nil => simp [slashed, isPartOver]
  | cons q ps =>
    cases q with
    | plain c => simpa [slashed, isPartOver] using hp
    | token p => exact hp

lemma isPartOver_path {segments : List Segment} (hg : ∀ g ∈ segments, g.isOver kind) :
    (pathPieces segments).all (isPartOver kind) := by
  rw [pathPieces, List.all_flatMap, List.all_eq_true]
  intro g hm
  refine isPartOver_slashed ?_
  obtain ⟨start, hole, format⟩ := g
  have hv := hg _ hm
  simp only [Segment.isOver, Bool.and_eq_true] at hv
  obtain ⟨⟨hstart, hhole⟩, -⟩ := hv
  rw [Segment.body, List.all_append, List.all_append, isPartOver_plains hstart]
  cases hole with
  | none => cases format <;> rfl
  | some h =>
    simp only [Option.all_some, Bool.and_eq_true] at hhole
    have := isPartOver_plains hhole.1.2
    cases format <;> simpa [isPartOver_hole] using this

end Kinds

lemma isDefault_path {segments : List Segment} (hg : ∀ g ∈ segments, g.isValid) :
    (pathPieces segments).all isDefault := by
  have hsame : isDefault = isPartOver isLiteral := by
    funext q
    cases q <;> rfl
  rw [hsame]
  exact isPartOver_path hg

def patternOf (spec : PathSpec) (b strict : Bool) (text : List Char) (nodes : List Node)
    (slots : List Slot) : Pattern where
  spec := spec
  source := (matcherOf b strict text nodes slots.length).source
  matcher := matcherOf b strict text nodes slots.length
  slots := slots

/-- A text that is cut into parts is compiled to them. -/
theorem compile_parts (caseSensitive strict : Bool) {cs : List Char} {ps : List (Piece Param)}
    (hd : ps.all (isPartOver isFree))
    (hc : Fragment.scanner.pieces cs = ps.map (image .param)) :
    Pattern.compile caseSensitive strict (.text (String.ofList cs)) =
      .ok (patternOf (.text (String.ofList cs)) (!caseSensitive) strict (expression ps)
        (nodesOf (casingOf !caseSensitive) 0 ps) (slotsOf ps)) := by
  have hcompile := compile_path (b := !caseSensitive) strict
    (fun rest us hr h => lexes_expression hd hr h)
    (fun q hf hq hn => by
      have := adds_pieces hf (by omega) ps
      rwa [hn] at this)
    (isBasic_nodesOf _ 0 ps)
  rw [Pattern.compile, Pattern.ofText, String.toList_ofList, hc, ofPieces_parts hd]
  simp only [bind, Except.bind]
  rw [hcompile]
  rfl

/-- A path of segments is compiled to its parts. -/
theorem compile_segments (caseSensitive strict : Bool) {segments : List Segment}
    (hg : ∀ g ∈ segments, g.isOver isFree) :
    Pattern.compile caseSensitive strict (.text (String.ofList (writePath segments))) =
      .ok (patternOf (.text (String.ofList (writePath segments))) (!caseSensitive) strict
        (expression (pathPieces segments))
        (nodesOf (casingOf !caseSensitive) 0 (pathPieces segments))
        (slotsOf (pathPieces segments))) :=
  compile_parts caseSensitive strict (isPartOver_path hg) (fragments_path hg)

lemma ofPieces_alternatives {paths : List (List Segment)}
    (hg : ∀ segments ∈ paths, ∀ g ∈ segments, g.isOver isFree) :
    Pattern.ofPieces ([.plain '|'].intercalate (paths.map pathFragments)) =
      .ok (['|'].intercalate ((paths.map pathPieces).map expression),
        (paths.map pathPieces).flatMap slotsOf) := by
  induction paths with
  | nil => rfl
  | cons segments paths ih =>
    have hfirst := ofPieces_parts (isPartOver_path (hg segments List.mem_cons_self))
    have ih := ih fun s hs => hg s (List.mem_cons_of_mem _ hs)
    cases paths with
    | nil => simpa [List.intercalate, pathFragments] using hfirst
    | cons segments' paths =>
      have hbar : Pattern.ofPieces (.plain '|' ::
          [.plain '|'].intercalate ((segments' :: paths).map pathFragments)) = .ok ('|' ::
            ['|'].intercalate (((segments' :: paths).map pathPieces).map expression),
          ((segments' :: paths).map pathPieces).flatMap slotsOf) := by
        rw [Pattern.ofPieces, ih]
        rfl
      have := ofPieces_append hfirst hbar
      rw [← pathFragments] at this
      simpa [List.intercalate] using this

lemma ofPieces_joint {paths : List (List Segment)}
    (hg : ∀ segments ∈ paths, ∀ g ∈ segments, g.isOver isFree) :
    Pattern.ofPieces (jointFragments paths) =
      .ok (jointExpression (paths.map pathPieces),
        {} :: (paths.map pathPieces).flatMap slotsOf) := by
  have hclose : Pattern.ofPieces [.plain ')'] = .ok ([')'], []) := rfl
  have h := ofPieces_append (ofPieces_alternatives hg) hclose
  rw [jointFragments, List.cons_append, Pattern.ofPieces, h]
  simp [Pattern.ofFragment, bind, Except.bind, jointExpression, Fragment.write]

/-- Several paths of segments are compiled to a choice among their parts. -/
theorem compile_joint (caseSensitive strict : Bool) {first : List Segment}
    {rest : List (List Segment)}
    (hg : ∀ segments ∈ first :: rest, ∀ g ∈ segments, g.isOver isFree) :
    Pattern.compile caseSensitive strict
        (.alternatives ((first :: rest).map (String.ofList ∘ writePath))) =
      .ok (patternOf (.alternatives ((first :: rest).map (String.ofList ∘ writePath)))
        (!caseSensitive) strict (jointExpression ((first :: rest).map pathPieces))
        [.group 1 (.ofParts (Node.ofBranches (branchesOf (casingOf !caseSensitive) 1
          ((first :: rest).map pathPieces))))]
        ({} :: ((first :: rest).map pathPieces).flatMap slotsOf)) := by
  have hd : ∀ ps ∈ (first :: rest).map pathPieces, ps.all (isPartOver isFree) := by
    intro ps hps
    obtain ⟨segments, hs, rfl⟩ := List.mem_map.mp hps
    exact isPartOver_path (hg segments hs)
  have hbasic : [Node.group 1 (.ofParts (Node.ofBranches (branchesOf (casingOf !caseSensitive) 1
      ((first :: rest).map pathPieces))))].all Node.isBasic := by
    have := Node.isStructural_isBasic.ofBranches (isBasic_branchesOf (casingOf !caseSensitive) 1
      ((first :: rest).map pathPieces))
    rw [List.all_cons, Node.isBasic, Node.isStructural_isBasic.ofParts, this]
    rfl
  have hcompile := compile_path (b := !caseSensitive) strict
    (fun more us _ h => lexes_joint h hd)
    (fun q hf hq hn => adds_joint hf hq hn (pathPieces first) (rest.map pathPieces)) hbasic
  have hcount : 1 + (((first :: rest).map pathPieces).flatMap slotsOf).length =
      (({} : Slot) :: ((first :: rest).map pathPieces).flatMap slotsOf).length := by
    rw [List.length_cons, Nat.add_comm]
  rw [Pattern.compile, Pattern.ofText, fragments_joint hg, ofPieces_joint hg]
  simp only [bind, Except.bind]
  rw [List.map_cons] at hcount ⊢
  rw [hcompile, patternOf, ← hcount]
  rfl

end Path

end ActionRouting
