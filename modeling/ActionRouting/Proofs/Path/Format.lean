import ActionRouting.Proofs.Path.Matching

/-! A parameter and a format after it. The segment is divided at its last dot; if there is no dot,
or nothing on one side of it, the parameter takes all of the segment and no format is there. -/
namespace ActionRouting.Path

open Text Regex

/-- A path that ends with a parameter and a format, as it is written. -/
def formatPath (u a f : List Char) (optional : Bool) : List Char :=
  u ++ '/' :: ':' :: a ++ '.' :: ':' :: f ++ if optional then ['?'] else []

def nameParam (a : List Char) : Param := (Hole.mk a false).param true false

def formatParam (f : List Char) (optional : Bool) : Param := (Hole.mk f optional).param false true

def formatPieces (u a f : List Char) (optional : Bool) : List (Piece Param) :=
  u.map .plain ++ [.token (nameParam a), .token (formatParam f optional)]

/-- A segment is divided at its last dot, and has something on both sides of it. -/
structure Divides (t x y : List Char) : Prop where
  eq : t = x ++ '.' :: y
  name_ne_nil : x ≠ []
  format_ne_nil : y ≠ []
  no_dot : '.' ∉ y

/-- A path is found in a text, and its capture groups hold some texts. -/
def Captures (r : Regex) (path : List Char) (texts : List (Option (List Char))) : Prop :=
  ∃ m, r.search path = some m ∧ m.isCrossed = false ∧ m.texts path = texts

variable {u a f t x y w : List Char} {optional strict : Bool} {s e : Cursor}

/-! ### What the path is compiled to -/

lemma cuts_literal {cs : List Char} {ps : List (Piece Fragment)}
    (hu : u.all fun c => isFree c || c == '/') (hs : cs.head? = some '/')
    (hc : ∀ before, Fragment.scanner.Cuts before cs ps) (before : Option Char) :
    Fragment.scanner.Cuts before (u ++ cs) (u.map .plain ++ ps) := by
  induction u generalizing before with
  | nil => exact hc before
  | cons c u ih =>
    rw [List.all_cons, Bool.and_eq_true, Bool.or_eq_true, beq_iff_eq] at hu
    refine .plain (extends_fragment.read_none hu.1 ?_) (ih hu.2 (some c))
    rcases hu.1 with hc | rfl
    · exact Param.read?_of_ne (isFree_ne hc (by decide)) (isFree_ne hc (by decide))
        (isFree_ne hc (by decide))
    · have hnext (d : Char) (hd : isFree d = false) (hne : '/' ≠ d) :
          (u ++ cs).head? ≠ some d := by
        cases u with
        | nil =>
          rw [List.nil_append, hs]
          simpa using hne
        | cons b u =>
          have hb := hu.2
          rw [List.all_cons, Bool.and_eq_true, Bool.or_eq_true, beq_iff_eq] at hb
          have : b ≠ d := hb.1.elim (isFree_ne · hd) (· ▸ hne)
          simpa using this
      exact Param.read?_slash (hnext '.' (by decide) (by decide))
        (hnext ':' (by decide) (by decide))

lemma fragments_formatPath (hu : u.all fun c => isFree c || c == '/') (ha : Fragment.isName a)
    (hf : Fragment.isName f) : Fragment.scanner.pieces (formatPath u a f optional) =
      (formatPieces u a f optional).map (image .param) := by
  have hformat (before : Option Char) : Fragment.scanner.Cuts before
      (((Hole.mk f optional).param false true).write ++ [])
      [.token (.param (formatParam f optional))] :=
    cuts_hole extends_fragment (h := ⟨f, optional⟩) hf false true before (by simp) rfl
      fun before => .nil before
  have hname (before : Option Char) := cuts_hole extends_fragment (h := ⟨a, false⟩) ha true
    false before (by simp) (by
      rw [param_write]
      exact follows_dot false _) hformat
  have hcuts := cuts_literal hu (by rw [param_write]; rfl) hname none
  have hpath : Fragment.scanner.Cuts none (formatPath u a f optional)
      ((formatPieces u a f optional).map (image .param)) := by
    simpa [formatPath, formatPieces, nameParam, formatParam, param_write, Hole.write, image]
      using hcuts
  exact (Fragment.scanner_isFaithful.eq_piecesFrom hpath).symm

lemma isPartOver_formatPieces (hu : u.all fun c => isFree c || c == '/') :
    (formatPieces u a f optional).all (isPartOver isFree) := by
  rw [formatPieces, List.all_append, List.all_map, Bool.and_eq_true]
  exact ⟨hu, rfl⟩

def formatPattern (strict : Bool) (u a f : List Char) (optional : Bool) : Pattern :=
  patternOf (.text (String.ofList (formatPath u a f optional))) false strict
    (expression (formatPieces u a f optional)) (nodesOf .exact 0 (formatPieces u a f optional))
    (slotsOf (formatPieces u a f optional))

lemma compile_formatPath (strict : Bool) (hu : u.all fun c => isFree c || c == '/')
    (ha : Fragment.isName a) (hf : Fragment.isName f) (optional : Bool) :
    Pattern.compile true strict (.text (String.ofList (formatPath u a f optional))) =
      .ok (formatPattern strict u a f optional) :=
  compile_parts true strict (isPartOver_formatPieces hu) (fragments_formatPath hu ha hf)

lemma holesOf_formatPieces : holesOf (formatPieces u a f optional) = 2 := by
  rw [formatPieces, holesOf, slotsOf, List.filterMap_append, List.filterMap_map]
  simp

/-! ### Segments that are divided -/

/-- A name takes one value and the other name takes the other. -/
def pairOf (a x y : List Char) (name : List Char) : List Char := if name = a then x else y

/-- Both forms of the path are found in a text whose last segment is divided. -/
lemma captures_divided (hne : a ≠ f) (h : Divides t x y) (hs : '/' ∉ t) (hl : '\n' ∉ t)
    (optional : Bool) :
    Captures (formatPattern strict u a f optional).matcher (u ++ '/' :: t) [some x, some y] := by
  obtain ⟨rfl, hx, hy, hdot⟩ := h
  simp only [List.mem_append, List.mem_cons, not_or] at hs hl
  have ha : pairOf a x y (nameParam a).name = x := if_pos rfl
  have hf : pairOf a x y (formatParam f optional).name = y := if_neg hne.symm
  have hname : (nameParam a).Fits (pairOf a x y) :=
    ⟨by rwa [ha], by rw [ha]; exact hs.1, by rw [ha]; exact hl.1, fun hd => by cases hd⟩
  have hformat : (formatParam f optional).Fits (pairOf a x y) :=
    ⟨by rwa [hf], by rw [hf]; exact hs.2.2, by rw [hf]; exact hl.2.2, fun _ => by rwa [hf]⟩
  have hsettles : Settles .exact (pairOf a x y) [.token (formatParam f optional)] := by
    change Settles .exact _ (([] : List Char).map .plain ++
      ([.token (formatParam f optional)] ++ ([] : List (List (Piece Param))).flatMap slashed))
    refine settles_middle (by simp) (.inr ⟨_, rfl, rfl, rfl⟩) (fun p hp => ?_) (by simp) (by simp)
    rw [List.mem_singleton, Piece.token.injEq] at hp
    exact hp ▸ hformat
  have hlast : Settles .exact (pairOf a x y) (([] : List (List (Piece Param))).flatMap slashed) :=
    settles_path (by simp) (by simp)
  have htight : IsTight (casingOf false) (pairOf a x y) (formatPieces u a f optional) := by
    rw [formatPieces, isTight_plains]
    exact ⟨hname, hsettles, hformat, hlast, trivial⟩
  obtain ⟨m, hm, hcrossed, htexts⟩ := search_tight strict
    (expression (formatPieces u a f optional)) htight
  have hfilled : filled (pairOf a x y) (formatPieces u a f optional) =
      u ++ '/' :: (x ++ '.' :: y) := by
    rw [formatPieces, filled_append, filled_plains, filled_token, filled_token, ha, hf]
    simp [nameParam, formatParam, Hole.param, Param.lead]
  have hvalues : valuesOf (pairOf a x y) (formatPieces u a f optional) = [x, y] := by
    rw [formatPieces, valuesOf, List.filterMap_append, List.filterMap_map]
    simp [ha, hf]
  rw [hfilled] at hm htexts
  rw [hvalues] at htexts
  exact ⟨m, hm, hcrossed, htexts⟩

/-! ### Segments that are not divided -/

/-- What a format takes is a dot and a text without dots. -/
lemma Takes.of_format (h : Takes .exact [.token (formatParam f optional)] w) :
    (∃ y, w = '.' :: y ∧ y ≠ [] ∧ '.' ∉ y) ∨ optional ∧ w = [] := by
  cases h with
  | @token _ y _ _ hne hs hd h =>
    cases h
    exact .inl ⟨y, by simp [formatParam, Hole.param, Param.lead], hne, hd rfl⟩
  | missing ho h =>
    cases h
    exact .inr ⟨ho, rfl⟩

/-- The ways to go on behind the parameter: with a format or without one, to the end. -/
def formatWays (strict : Bool) (f : List Char) (s : Cursor) : List Cursor :=
  ((Node.ofParts (nodesOf .exact 1 [.token (formatParam f true)])).results s).flatMap
    (Node.ofParts (endNodes .exact strict)).results

/-- There is no way on where the parameter leaves something of a segment that is not divided. -/
lemma formatWays_of_rest {rest : List Char} (hdiv : ¬ ∃ x y, Divides t x y) (hs : '/' ∉ t)
    (hl : '\n' ∉ t) (hx : x ≠ []) (ht : t = x ++ rest) (hne : rest ≠ [])
    (hrest : s.after = rest) : formatWays strict f s = [] := by
  rw [formatWays, List.flatMap_eq_nil_iff]
  intro e he
  by_contra hend
  obtain ⟨w, hw, htakes⟩ := takes_of_mem_results he
  rw [hrest] at hw
  subst ht
  have hnil : e.after = [] := (isEndingOf_of_results hend).eq_nil
    (fun hm => hs (by rw [hw]; simp [hm])) fun hm => hl (by rw [hw]; simp [hm])
  rw [hnil, List.append_nil] at hw
  rcases htakes.of_format with ⟨y, rfl, hy, hdot⟩ | ⟨-, rfl⟩
  · exact hdiv ⟨x, y, by rw [hw], hx, hy, hdot⟩
  · exact hne hw

/-- At the end of the text no format begins. -/
lemma formatWays_of_end (hs : s.after = []) : formatWays strict f s = [s] := by
  have hformat :
      (Node.ofParts (nodesOf .exact 1 [.token (formatParam f true)])).results s = [s] := by
    change (Node.ofParts [.loop true 0 (some 1) (.ofParts
      (charNode .exact '.' :: [(formatParam f true).captureNode .exact 2]))]).results s = _
    rw [Node.results_ofParts_singleton, Node.results_optional, Node.results_ofParts_cons, charNode,
      Node.results_chars_nil _ s hs]
    rfl
  rw [formatWays, hformat, List.flatMap_cons, List.flatMap_nil, List.append_nil,
    results_endNodes strict hs]

/-- The first way to match a segment that is not divided is that the parameter takes all of it. -/
lemma ways_undivided (hdiv : ¬ ∃ x y, Divides t x y) (ht : t ≠ []) (hs : '/' ∉ t) (hl : '\n' ∉ t)
    (hafter : s.after = '/' :: t) :
    ∃ others, ((Node.ofParts ((nameParam a).nodes .exact 1)).results s).flatMap
      (formatWays strict f) = bound (fun _ => t) (nameParam a) 1 s :: others := by
  have hfits : (nameParam a).Fits fun _ => t := ⟨ht, hs, hl, fun hd => by cases hd⟩
  have htext : s.after = (nameParam a).lead ++ (t ++ []) := by
    rw [hafter, List.append_nil]
    rfl
  obtain ⟨earlier, later, hresults, hearlier⟩ := results_param .exact 1 hfits htext
  have hnone : earlier.flatMap (formatWays strict f) = [] := by
    rw [List.flatMap_eq_nil_iff]
    intro s' hs'
    obtain ⟨x, rest, hsplit, hne, hrest⟩ := hearlier s' hs'
    rw [List.append_nil] at hrest
    have hmem : s' ∈ (Node.ofParts ((nameParam a).nodes .exact 1)).results s := by
      rw [hresults]
      exact List.mem_append_left _ hs'
    have hx : x ≠ [] := by
      rcases mem_results_param hmem with ⟨x', hx', -, -, ha⟩ | ⟨ho, -⟩
      · rw [hafter, hrest] at ha
        have : t = x' ++ rest := (List.cons.inj ha).2
        rwa [List.append_cancel_right (hsplit.symm.trans this)]
      · cases ho
    exact formatWays_of_rest hdiv hs hl hx hsplit hne hrest
  refine ⟨later.flatMap (formatWays strict f), ?_⟩
  rw [hresults, List.flatMap_append, hnone, List.nil_append, List.flatMap_cons,
    formatWays_of_end (after_bound 1 htext)]
  rfl

/-- The path with a format that may be missing is found in a text whose last segment is not
divided. The parameter takes all of it. -/
lemma captures_undivided (hdiv : ¬ ∃ x y, Divides t x y) (ht : t ≠ []) (hs : '/' ∉ t)
    (hl : '\n' ∉ t) :
    Captures (formatPattern strict u a f true).matcher (u ++ '/' :: t) [some t, none] := by
  let s := (start 2 (u ++ '/' :: t)).past u
  let e := bound (fun _ => t) (nameParam a) 1 s
  obtain ⟨others, hways⟩ : ∃ others, ((Node.ofParts ((nameParam a).nodes .exact 1)).results
      s).flatMap (formatWays strict f) = e :: others :=
    ways_undivided hdiv ht hs hl (Cursor.past_after (u := u) rfl)
  have hsearch : ((Node.ofParts (nodesOf .exact 0 (formatPieces u a f true))).results
      (start (holesOf (formatPieces u a f true)) (u ++ '/' :: t))).flatMap
        (Node.ofParts (endNodes .exact strict)).results = e :: others := by
    rw [holesOf_formatPieces, formatPieces, nodesOf_plains, results_plains _ rfl, nodesOf,
      Node.results_ofParts_append, List.flatMap_assoc]
    exact hways
  have hgroups : e.groups = [⟨some (u.length + 1), some (u.length + 1 + t.length)⟩, {}] := by
    have hpos : s.pos + (nameParam a).lead.length = u.length + 1 := by
      rw [show s.pos = u.length from Nat.zero_add _]
      rfl
    rw [← hpos]
    exact groups_bound (p := nameParam a) (show s.groups = [] ++ {} :: [{}] from rfl)
  refine ⟨_, search_matcherOf (b := false) hsearch, isCrossed_eq_false.mpr ?_, ?_⟩
  · rw [hgroups]
    exact Bool.and_eq_true_iff.mpr ⟨decide_eq_true (Nat.le_add_right _ _), rfl⟩
  · have hspan : (Span.mk (u.length + 1) (u.length + 1 + t.length)).of (u ++ '/' :: t) = t := by
      rw [Span.of, Nat.add_sub_cancel_left, ← List.singleton_append, ← List.append_assoc,
        List.drop_left' (by simp), List.take_length]
    rw [Regex.Match.texts, hgroups]
    simp [Mark.span?, hspan]

/-- A text in which the path with a format is found has a last segment that is divided. -/
lemma exists_divides (hs : '/' ∉ t) (hl : '\n' ∉ t)
    (h : ((formatPattern strict u a f false).matcher.search (u ++ '/' :: t)).isSome) :
    ∃ x y, Divides t x y := by
  obtain ⟨w, ending, hw, htakes, hending⟩ := reading_of_search (b := false) h
  obtain ⟨u', v, rfl, hu', hv⟩ := htakes.of_append
  have hv : Takes .exact [.token (nameParam a), .token (formatParam f false)] v := hv
  cases hv with
  | @token _ x _ r hx hxs _ h =>
    have hlen := Takes.length_eq hu'
    have hlead : (nameParam a).lead = ['/'] := rfl
    rw [List.append_assoc] at hw
    obtain ⟨-, hrest⟩ := List.append_inj hw hlen.symm
    rw [hlead] at hrest
    have ht : t = x ++ (r ++ ending) := by simpa using hrest
    obtain rfl := hending.eq_nil (fun hm => hs (by rw [ht]; simp [hm]))
      fun hm => hl (by rw [ht]; simp [hm])
    rw [List.append_nil] at ht
    rcases h.of_format with ⟨y, rfl, hy, hdot⟩ | ⟨ho, -⟩
    · exact ⟨x, y, ht, hx, hy, hdot⟩
    · cases ho
  | missing ho => cases ho

/-- A path of literal segments with a parameter and a format at its end is compiled, whether the
format may be missing or not. In a text with one more segment, the segment is divided at its last
dot if it has something on both sides of it: the parameter takes what is before, the format what is
after. If it is not divided, the parameter takes all of it where the format may be missing, and the
path is not found where the format has to be there. -/
theorem format_after_last_dot (strict : Bool) (hu : u.all fun c => isFree c || c == '/')
    (ha : Fragment.isName a) (hf : Fragment.isName f) (hne : a ≠ f) :
    ∃ loose tight : Pattern,
      Pattern.compile true strict (.text (String.ofList (formatPath u a f true))) = .ok loose ∧
      Pattern.compile true strict (.text (String.ofList (formatPath u a f false))) = .ok tight ∧
      ∀ t, t ≠ [] → '/' ∉ t → '\n' ∉ t →
        (∀ x y, Divides t x y → Captures loose.matcher (u ++ '/' :: t) [some x, some y]) ∧
        ((¬ ∃ x y, Divides t x y) → Captures loose.matcher (u ++ '/' :: t) [some t, none]) ∧
        ((tight.matcher.search (u ++ '/' :: t)).isSome ↔ ∃ x y, Divides t x y) ∧
        ∀ x y, Divides t x y → Captures tight.matcher (u ++ '/' :: t) [some x, some y] := by
  refine ⟨_, _, compile_formatPath strict hu ha hf true, compile_formatPath strict hu ha hf false,
    fun t ht hs hl => ⟨fun x y h => captures_divided hne h hs hl true,
      fun h => captures_undivided h ht hs hl, ⟨exists_divides hs hl, ?_⟩,
      fun x y h => captures_divided hne h hs hl false⟩⟩
  rintro ⟨x, y, h⟩
  obtain ⟨m, hm, -⟩ : Captures (formatPattern strict u a f false).matcher (u ++ '/' :: t)
      [some x, some y] := captures_divided hne h hs hl false
  exact Option.isSome_of_eq_some hm

theorem format_after_last_dot_archive : "/files".toList.all (fun c => isFree c || c == '/') ∧
    Fragment.isName "name".toList ∧ Fragment.isName "format".toList ∧
    "name".toList ≠ "format".toList ∧
    ∃ p, Pattern.compile true true (.text "/files/:name.:format?") = .ok p ∧
      Captures p.matcher "/files/a.tar.gz".toList [some "a.tar".toList, some "gz".toList] ∧
      Captures p.matcher "/files/.profile".toList [some ".profile".toList, none] := by
  obtain ⟨p, _, hp, -, hcaptures⟩ := format_after_last_dot (u := "/files".toList)
    (a := "name".toList) (f := "format".toList) true (by decide) (by decide) (by decide) (by decide)
  refine ⟨by decide, by decide, by decide, by decide, p, hp, ?_, ?_⟩
  · exact (hcaptures "a.tar.gz".toList (by decide) (by decide) (by decide)).1 _ _
      ⟨rfl, by decide, by decide, by decide⟩
  · refine (hcaptures ".profile".toList (by decide) (by decide) (by decide)).2.1 ?_
    -- The only dot of the segment is its first character.
    rintro ⟨x, y, h, hx, -, hy⟩
    obtain ⟨c, x, rfl⟩ := List.exists_cons_of_ne_nil hx
    have hdot : '.' ∈ "profile".toList := by
      rw [show "profile".toList = x ++ '.' :: y from (List.cons.inj h).2]
      simp
    exact absurd hdot (by decide)

end ActionRouting.Path
