import ActionRouting.Proofs.Path.Given
import ActionRouting.Proofs.Path.Whole

/-! Paths of whole segments that are filled while some optional parameters are left out. In the text
such a parameter leaves its slash, but where the path is read its slash goes with it. So the path is
found in its own text only if none is left out, or the last segment alone: there the slash is the
one that may be left over at the end. -/
namespace ActionRouting

namespace Path

open Text Regex

namespace Whole

variable (named : OrderedMap Value)

/-- What stands for the segment in a filled path: nothing for a parameter that is left out. -/
def filling : Whole → List Char
  | text u => u
  | hole h => (given? named (String.ofList h.name)).elim [] Path.segment

def isOmitted : Whole → Bool
  | text _ => false
  | hole h => (given? named (String.ofList h.name)).isNone

/-- A parameter has a value that shows something, or it may be missing and has none. -/
def IsServed : Whole → Prop
  | text _ => True
  | hole h =>
    match given? named (String.ofList h.name) with
    | some v => v.display ≠ ""
    | none => h.optional

def name? : Whole → Option String
  | text _ => none
  | hole h => some (String.ofList h.name)

def pair? : Whole → Option (String × String)
  | text _ => none
  | hole h => (given? named (String.ofList h.name)).map fun v => (String.ofList h.name, v.display)

def group? : Whole → Option (Option (List Char))
  | text _ => none
  | hole h => some ((given? named (String.ofList h.name)).map Path.segment)

end Whole

def filledPath (named : OrderedMap Value) (gs : List Whole) : List Char :=
  spell (gs.map (Whole.filling named))

/-- The parameters that have values, with these as texts. -/
def supplied (named : OrderedMap Value) (gs : List Whole) : List (String × String) :=
  gs.filterMap (Whole.pair? named)

def heldOf (named : OrderedMap Value) (gs : List Whole) : List (Option (List Char)) :=
  gs.filterMap (Whole.group? named)

/-- A filled path keeps its text, which a hash would cut off, and it leaves out no parameter, or the
last segment alone where slashes are not strict. -/
structure LeadsBack (strict : Bool) (named : OrderedMap Value) (gs : List Whole) : Prop where
  no_hash : ∀ u, .text u ∈ gs → '#' ∉ u
  last_only : ∀ g ∈ gs.dropLast, g.isOmitted named = false
  not_strict : strict → ∀ g ∈ gs, g.isOmitted named = false

variable {casing : Casing} {named : OrderedMap Value} {g : Whole} {gs : List Whole}
  {xs : List (List Char)} {w : List Char} {ps qs : List (Piece Param)} {s : Cursor} {h : Hole}

/-! ### What is given -/

lemma given?_of_isOmitted (ho : (Whole.hole h).isOmitted named) :
    given? named (String.ofList h.name) = none := Option.isNone_iff_eq_none.mp ho

lemma exists_given (ho : (Whole.hole h).isOmitted named = false) :
    ∃ v, given? named (String.ofList h.name) = some v :=
  Option.isSome_iff_exists.mp (Option.isNone_eq_false_iff.mp ho)

lemma filling_of_isOmitted (ho : g.isOmitted named) : g.filling named = [] := by
  cases g with
  | text u => cases ho
  | hole h =>
    rw [Whole.filling, given?_of_isOmitted ho]
    rfl

lemma heldOf_hole (named : OrderedMap Value) (h : Hole) (gs : List Whole) :
    heldOf named (.hole h :: gs) =
      (given? named (String.ofList h.name)).map Path.segment :: heldOf named gs := rfl

lemma supplied_of_none (hv : given? named (String.ofList h.name) = none) :
    supplied named (.hole h :: gs) = supplied named gs := by
  simp [supplied, Whole.pair?, hv]

lemma supplied_of_some {v : Value} (hv : given? named (String.ofList h.name) = some v) :
    supplied named (.hole h :: gs) = (String.ofList h.name, v.display) :: supplied named gs := by
  simp [supplied, Whole.pair?, hv]

/-- The names of the parameters that have values are among those of the path. -/
lemma keys_supplied_sublist (named : OrderedMap Value) (gs : List Whole) :
    (OrderedMap.keys (supplied named gs)).Sublist (gs.filterMap Whole.name?) := by
  induction gs with
  | nil => exact .slnil
  | cons g gs ih =>
    cases g with
    | text u => exact ih
    | hole h =>
      cases hv : given? named (String.ofList h.name) with
      | none =>
        rw [supplied_of_none hv]
        exact ih.cons _
      | some v =>
        rw [supplied_of_some hv]
        exact ih.cons_cons _

/-! ### The text of the path -/

lemma mem_filling {c : Char} (h : c ∈ g.filling named) :
    (∃ u, g = .text u ∧ c ∈ u) ∨ Percent.isSegmentChar c := by
  cases g with
  | text u => exact .inl ⟨u, rfl, h⟩
  | hole k =>
    rw [Whole.filling] at h
    cases hv : given? named (String.ofList k.name) with
    | none =>
      rw [hv] at h
      cases h
    | some v =>
      rw [hv] at h
      exact .inr (Percent.mem_encodeSegment h).1

lemma mem_filledPath {c : Char} (h : c ∈ filledPath named gs) :
    c = '/' ∨ (∃ u, .text u ∈ gs ∧ c ∈ u) ∨ Percent.isSegmentChar c := by
  obtain ⟨x, hx, hc⟩ := List.mem_flatMap.mp h
  obtain ⟨g, hg, rfl⟩ := List.mem_map.mp hx
  rcases List.mem_cons.mp hc with rfl | hc
  · exact .inl rfl
  · rcases mem_filling hc with ⟨u, rfl, hu⟩ | hs
    · exact .inr (.inl ⟨u, hg, hu⟩)
    · exact .inr (.inr hs)

/-- A character of syntax has no place in a filled path. -/
lemma not_mem_filledPath (hv : ∀ g ∈ gs, g.isValid) {c : Char} (hc : isFree c = false)
    (hs : c ≠ '/') (hp : Percent.isSegmentChar c = false) : c ∉ filledPath named gs := by
  intro hm
  rcases mem_filledPath hm with h | ⟨u, hu, hcu⟩ | h
  · exact hs h
  · have hvalid := hv _ hu
    rw [Whole.isValid, Bool.and_eq_true, List.all_eq_true] at hvalid
    rw [hvalid.2 c hcu] at hc
    cases hc
  · rw [h] at hp
    cases hp

lemma fillParam_hole (hs : (Whole.hole h).IsServed named) :
    fillParam named (h.param true false) = '/' :: (Whole.hole h).filling named := by
  rw [Whole.IsServed] at hs
  simp only [fillParam, Hole.param, Whole.filling]
  cases hv : given? named (String.ofList h.name) with
  | some v => rfl
  | none =>
    rw [hv] at hs
    simp [hs]

lemma textOf_wholePieces (hs : ∀ g ∈ gs, g.IsServed named) :
    textOf (fillParam named) (wholePieces gs) = filledPath named gs := by
  induction gs with
  | nil => rfl
  | cons g gs ih =>
    have hrest := ih fun g' hg => hs g' (List.mem_cons_of_mem _ hg)
    have hfirst : textOf (fillParam named) g.pieces = '/' :: g.filling named := by
      cases g with
      | text u => exact textOf_plains _ ('/' :: u)
      | hole h => exact (List.append_nil _).trans (fillParam_hole (hs _ List.mem_cons_self))
    rw [wholePieces_cons, textOf, List.flatMap_append, ← textOf, ← textOf, hfirst, hrest]
    rfl

/-- A path is filled segment by segment. -/
theorem fill_whole (hv : ∀ g ∈ gs, g.isValid) (hs : ∀ g ∈ gs, g.IsServed named)
    (positional : List Value) : fill named positional (wholePath gs) = filledPath named gs := by
  have htext := textOf_wholePieces hs
  have hstar : '*' ∉ filledPath named gs :=
    not_mem_filledPath hv (by decide) (by decide) (by decide)
  rw [← pathPieces_segment] at htext
  rw [← htext] at hstar ⊢
  rw [← writePath_segment]
  exact fill_path (isOver_segments hv) named positional hstar

/-- A filled path without a hash is kept as a whole. -/
lemma stripQuery_filledPath (hv : ∀ g ∈ gs, g.isValid) (hh : ∀ u, .text u ∈ gs → '#' ∉ u) :
    stripQuery (filledPath named gs) = filledPath named gs := by
  refine stripQuery_of_not_mem (not_mem_filledPath hv (by decide) (by decide) (by decide)) ?_
  intro hm
  rcases mem_filledPath hm with h | ⟨u, hu, hc⟩ | h
  · exact absurd h (by decide)
  · exact hh u hu hc
  · exact absurd h (by decide)

/-! ### Where the path is found -/

lemma fills_filling (hs : g.IsServed named) (ho : g.isOmitted named = false) :
    g.Fills (g.filling named) := by
  cases g with
  | text u => exact ⟨rfl, nofun⟩
  | hole h =>
    obtain ⟨v, hv⟩ := exists_given ho
    rw [Whole.IsServed, hv] at hs
    rw [Whole.filling, hv]
    have hchar {c : Char} (hc : Percent.isSegmentChar c = false) : c ∉ Path.segment v := by
      intro hm
      rw [(Percent.mem_encodeSegment hm).1] at hc
      cases hc
    refine ⟨⟨Percent.encodeSegment_ne_nil ?_, hchar (by decide)⟩, fun _ _ => hchar (by decide)⟩
    exact fun h => hs (String.toList_eq_nil_iff.mp h)

lemma forall₂_filling (hs : ∀ g ∈ gs, g.IsServed named)
    (ho : ∀ g ∈ gs, g.isOmitted named = false) :
    List.Forall₂ Whole.Fills gs (gs.map (Whole.filling named)) := by
  rw [List.forall₂_map_right_iff, List.forall₂_same]
  exact fun g hg => fills_filling (hs g hg) (ho g hg)

lemma nodesOf_append (count : Nat) (ps qs : List (Piece Param)) :
    nodesOf casing count (ps ++ qs) =
      nodesOf casing count ps ++ nodesOf casing (count + holesOf ps) qs := by
  induction ps generalizing count with
  | nil => rfl
  | cons q ps ih =>
    cases q with
    | plain c => exact congrArg _ (ih count)
    | token p =>
      have hcount : count + holesOf (.token p :: ps) = count + 1 + holesOf ps := by
        simp only [holesOf, slotsOf, List.filterMap_cons, List.length_cons]
        omega
      rw [List.cons_append, nodesOf, ih, nodesOf, List.append_assoc, hcount]

/-- Before a slash and nothing else, an optional parameter takes nothing. -/
lemma results_optional_slash (ho : h.optional) (index : Nat) (hs : s.after = ['/']) :
    (Node.ofParts ((h.param true false).nodes casing index)).results s = [s] := by
  have hnone : (Node.ofParts ((h.param true false).presentNodes casing index)).results s = [] := by
    rw [List.eq_nil_iff_forall_not_mem]
    intro t ht
    obtain ⟨x, hne, -, -, ha⟩ := mem_results_present ht
    rw [hs] at ha
    have hnil : x ++ t.after = [] := (List.cons.inj ha).2.symm
    exact hne (List.append_eq_nil_iff.mp hnil).1
  have hopt : (h.param true false).optional = true := ho
  rw [Param.nodes, if_pos hopt, Node.results_ofParts_singleton, Node.results_optional, hnone]
  rfl

/-- The ways to go on behind the other segments: past the last parameter and to the end. -/
def lastWays (b : Bool) (h : Hole) (index : Nat) (s : Cursor) : List Cursor :=
  ((Node.ofParts ((h.param true false).nodes (casingOf b) index)).results s).flatMap
    (Node.ofParts (endNodes (casingOf b) false)).results

lemma isBorder_of_lastWays {b : Bool} {index : Nat} (hne : lastWays b h index s ≠ []) :
    isBorder s.after := by
  obtain ⟨e, he⟩ := List.exists_mem_of_ne_nil _ hne
  obtain ⟨t, ht, hend⟩ := List.mem_flatMap.mp he
  rcases mem_results_param ht with ⟨x, -, -, -, ha⟩ | ⟨-, rfl⟩
  · rw [ha]
    rfl
  · exact (isEndingOf_of_results (List.ne_nil_of_mem hend)).isBorder

lemma lastWays_slash (b : Bool) (ho : h.optional) (index : Nat) (hs : s.after = ['/']) :
    ∃ others, lastWays b h index s = s.past ['/'] :: others := by
  obtain ⟨others, hend⟩ := results_endNodes_slash (casingOf b) hs
  refine ⟨others, ?_⟩
  rw [lastWays, results_optional_slash ho index hs, List.flatMap_cons, hend, List.flatMap_nil,
    List.append_nil]

/-- A path whose last parameter may be missing is found in the text of the others with a slash more.
The group of the last parameter takes no part. -/
theorem search_omitted {b : Bool} (text : List Char) (ho : h.optional)
    (hx : List.Forall₂ Whole.Fills gs xs) :
    (matcherOf b false text (nodesOf (casingOf b) 0 (wholePieces (gs ++ [.hole h])))
      (holesOf (wholePieces (gs ++ [.hole h])))).search (spell xs ++ ['/']) =
        some ⟨⟨0, (spell xs ++ ['/']).length⟩,
          (wholeMarks 0 gs xs ++ [({} : Mark)]).map Mark.span?⟩ := by
  have hpieces : wholePieces (gs ++ [.hole h]) = wholePieces gs ++ [.token (h.param true false)] :=
    by simp [wholePieces, Whole.pieces]
  have hholes : holesOf (wholePieces (gs ++ [.hole h])) = holesOf (wholePieces gs) + 1 := by
    simp [hpieces, holesOf, slotsOf]
  have hnodes : nodesOf (casingOf b) 0 (wholePieces (gs ++ [.hole h])) =
      nodesOf (casingOf b) 0 (wholePieces gs) ++
        (h.param true false).nodes (casingOf b) (holesOf (wholePieces gs) + 1) := by
    rw [hpieces, nodesOf_append, Nat.zero_add, nodesOf, nodesOf, List.append_nil]
  have hborder (t : Cursor) (ht : lastWays b h (holesOf (wholePieces gs) + 1) t ≠ []) :=
    isBorder_of_lastWays ht
  obtain ⟨e, others, he, hafter, hpos, hgroups⟩ := results_start (casingOf b) hborder hx 1 rfl
  obtain ⟨more, hlast⟩ := lastWays_slash b ho (holesOf (wholePieces gs) + 1) hafter
  rw [hlast, List.cons_append] at he
  have hways : ((Node.ofParts (nodesOf (casingOf b) 0 (wholePieces (gs ++ [.hole h])))).results
      (start (holesOf (wholePieces gs) + 1) (spell xs ++ ['/']))).flatMap
        (Node.ofParts (endNodes (casingOf b) false)).results =
          e.past ['/'] :: (more ++ others) := by
    rw [hnodes, Node.results_ofParts_append, List.flatMap_assoc]
    exact he
  rw [hholes, search_matcherOf hways, Cursor.past, hpos, hgroups, List.length_append]
  rfl

lemma isOrdered_wholeMarks (pos : Nat) (gs : List Whole) (xs : List (List Char)) :
    (wholeMarks pos gs xs).all isOrdered := by
  induction gs generalizing pos xs with
  | nil => cases xs <;> rfl
  | cons g gs ih =>
    cases xs with
    | nil => cases g <;> rfl
    | cons x xs =>
      cases g with
      | text u => exact ih _ xs
      | hole h =>
        rw [wholeMarks, List.all_cons, ih, Bool.and_true]
        simp [isOrdered, Mark.span?]

lemma captured_filling (ho : ∀ g ∈ gs, g.isOmitted named = false) :
    (captured gs (gs.map (Whole.filling named))).map some = heldOf named gs := by
  induction gs with
  | nil => rfl
  | cons g gs ih =>
    have hrest := ih fun g' hg => ho g' (List.mem_cons_of_mem _ hg)
    cases g with
    | text u => exact hrest
    | hole h =>
      obtain ⟨v, hv⟩ := exists_given (ho _ List.mem_cons_self)
      rw [heldOf_hole, hv, ← hrest, List.map_cons, captured, List.map_cons, Whole.filling, hv]
      rfl

/-- A path that leads back leaves out no parameter, or an optional one at its end alone. -/
lemma LeadsBack.none_or_last {strict : Bool} (h : LeadsBack strict named gs)
    (hs : ∀ g ∈ gs, g.IsServed named) : (∀ g ∈ gs, g.isOmitted named = false) ∨
      ∃ before k, gs = before ++ [.hole k] ∧ strict = false ∧ k.optional ∧
        (Whole.hole k).isOmitted named ∧ ∀ g ∈ before, g.isOmitted named = false := by
  rcases List.eq_nil_or_concat gs with rfl | ⟨before, g, rfl⟩
  · exact .inl (by simp)
  rw [List.concat_eq_append] at *
  have hkept : ∀ g' ∈ before, g'.isOmitted named = false := by
    have := h.last_only
    rwa [List.dropLast_concat] at this
  cases ho : g.isOmitted named with
  | false => exact .inl (List.forall_mem_append.mpr ⟨hkept, by simpa using ho⟩)
  | true =>
    have hlast : g ∈ before ++ [g] := List.mem_append_right _ List.mem_cons_self
    have hstrict : strict = false := by
      by_contra hstrict
      have := h.not_strict (by simpa using hstrict) g hlast
      rw [ho] at this
      cases this
    cases g with
    | text u => cases ho
    | hole k =>
      have hopt := hs _ hlast
      rw [Whole.IsServed, given?_of_isOmitted ho] at hopt
      exact .inr ⟨before, k, rfl, hstrict, hopt, ho, hkept⟩

/-- A path that leads back is found in its own text, and the groups of its parameters hold their
values. -/
theorem search_filledPath {b strict : Bool} (text : List Char)
    (hs : ∀ g ∈ gs, g.IsServed named) (h : LeadsBack strict named gs) :
    ∃ m, (matcherOf b strict text (nodesOf (casingOf b) 0 (wholePieces gs))
        (holesOf (wholePieces gs))).search (filledPath named gs) = some m ∧
      m.isCrossed = false ∧ m.texts (filledPath named gs) = heldOf named gs := by
  rcases h.none_or_last hs with hall | ⟨before, k, rfl, rfl, hopt, ho, hkept⟩
  · have hfills := forall₂_filling hs hall
    refine ⟨_, search_spelled text hfills (.inl rfl),
      isCrossed_eq_false.mpr (isOrdered_wholeMarks _ _ _), ?_⟩
    rw [Regex.Match.texts, List.map_map, ← captured_filling hall]
    exact texts_wholeMarks (hfills.imp fun _ _ hx => hx.1) [] [] (List.append_nil _).symm
  · -- The slash of the parameter that is left out is the one that may be left over.
    have hfills := forall₂_filling (fun g hg => hs g (List.mem_append_left _ hg)) hkept
    have hpath : filledPath named (before ++ [.hole k]) =
        spell (before.map (Whole.filling named)) ++ ['/'] := by
      simp [filledPath, spell, filling_of_isOmitted ho]
    have hheld : heldOf named (before ++ [.hole k]) = heldOf named before ++ [none] := by
      simp [heldOf, Whole.group?, given?_of_isOmitted ho]
    rw [hpath, hheld]
    refine ⟨_, search_omitted text hopt hfills, isCrossed_eq_false.mpr ?_, ?_⟩
    · rw [List.all_append, isOrdered_wholeMarks]
      rfl
    · rw [Regex.Match.texts, List.map_map, List.map_append, ← captured_filling hkept]
      exact congrArg (· ++ [none])
        (texts_wholeMarks (hfills.imp fun _ _ hx => hx.1) [] ['/'] rfl)

/-- The slots of a path take what the groups of its parameters hold. -/
lemma filterMap_zip_heldOf (named : OrderedMap Value) (gs : List Whole) :
    ((slotsOf (wholePieces gs)).zip ((heldOf named gs).map
      (Option.map fun text => String.ofList (Percent.decode text)))).filterMap
        (fun p => do return (← p.1.name, ← p.2)) = supplied named gs := by
  induction gs with
  | nil => rfl
  | cons g gs ih =>
    cases g with
    | text u =>
      rw [slotsOf_text]
      exact ih
    | hole h =>
      cases hv : given? named (String.ofList h.name) with
      | none =>
        rw [heldOf_hole, hv, supplied_of_none hv]
        exact ih
      | some v =>
        have hdecode : String.ofList (Percent.decode (Path.segment v)) = v.display := by
          rw [Path.segment, Percent.decode_encodeSegment, String.ofList_toList]
        rw [heldOf_hole, hv, supplied_of_some hv]
        exact congrArg₂ (fun text pairs => (String.ofList h.name, text) :: pairs) hdecode ih

/-- Groups that hold the values of the parameters give these as texts. -/
lemma paramsOf_heldOf {m : Regex.Match} {path : List Char} (h : m.texts path = heldOf named gs) :
    paramsOf (slotsOf (wholePieces gs)) (decodeGroups m path) = .ofPairs (supplied named gs) := by
  rw [paramsOf, decodeGroups, h, filterMap_zip_heldOf]

/-! ### Where the path is not found -/

/-- In a text of pieces, a slash that stands before other pieces or at the end is the one that is
left over. -/
lemma nil_of_slash {strict : Bool} {ending before : List Char} {ys : List (List Char)}
    (hx : ∀ x ∈ xs, x ≠ [] ∧ '/' ∉ x) (he : IsEndingOf strict ending)
    (h : spell xs ++ ending = before ++ '/' :: spell ys) : ys = [] ∧ strict = false := by
  induction xs generalizing before with
  | nil =>
    rw [spell_nil, List.nil_append] at h
    rcases he with hline | ⟨hstrict, hline⟩
    · exact absurd (h ▸ List.mem_append_right _ List.mem_cons_self) (not_mem_line hline)
    · refine ⟨?_, hstrict⟩
      cases ys with
      | nil => rfl
      | cons y ys =>
        -- Nothing that may be left over has two slashes.
        have htwo : ∀ cs ∈ [['/'], ['/', '\n']], cs.count '/' < 2 := by decide
        have hcount := htwo ending hline
        rw [h, spell_cons, List.count_append, List.cons_append, List.count_cons_self,
          List.count_cons_self] at hcount
        omega
  | cons x xs ih =>
    obtain ⟨⟨hne, hslash⟩, hrest⟩ := List.forall_mem_cons.mp hx
    rw [spell_cons, List.cons_append, List.cons_append, List.append_assoc] at h
    cases before with
    | nil =>
      obtain ⟨c, x, rfl⟩ := List.exists_cons_of_ne_nil hne
      have htail : c :: x ++ (spell xs ++ ending) = spell ys := (List.cons.inj h).2
      cases ys with
      | nil => cases htail
      | cons y ys =>
        obtain ⟨rfl, -⟩ := List.cons.inj htail
        exact absurd List.mem_cons_self hslash
    | cons c before =>
      obtain ⟨y, -, htail⟩ := split_slash hslash (List.cons.inj h).2
      exact ih hrest htail

/-- What stands for itself alone is taken for itself. -/
lemma Takes.mem_of_plain {c : Char} (hc : c ∈ ['\n', '#', '.', '/']) (h : Takes casing ps w)
    (hp : .plain c ∈ ps) : c ∈ w := by
  induction h with
  | nil => cases hp
  | @plain d e ps w hd h ih =>
    rcases List.mem_cons.mp hp with he | hp
    · cases he
      rw [casing.eq_of_mem_variants hc hd]
      exact List.mem_cons_self
    · exact List.mem_cons_of_mem _ (ih hp)
  | @token p x ps w hne hs hdot h ih =>
    have hp : .plain c ∈ ps := (List.mem_cons.mp hp).resolve_left nofun
    exact List.mem_append_right _ (List.mem_append_right _ (ih hp))
  | @missing p ps w ho h ih => exact ih ((List.mem_cons.mp hp).resolve_left nofun)

lemma append_of_mem_dropLast (hg : g ∈ gs.dropLast) :
    ∃ before after, gs = before ++ g :: after ∧ after ≠ [] := by
  obtain ⟨before, after, hsplit⟩ := List.append_of_mem hg
  have hne : gs ≠ [] := by
    rintro rfl
    cases hg
  refine ⟨before, after ++ [gs.getLast hne], ?_,
    List.append_ne_nil_of_right_ne_nil after (List.cons_ne_nil _ [])⟩
  conv_lhs => rw [← List.dropLast_concat_getLast hne, hsplit, List.append_assoc, List.cons_append]

/-- A path that does not lead back is not found in its own text. -/
theorem search_filledPath_eq_none {b strict : Bool} (text : List Char) {count : Nat}
    (hv : ∀ g ∈ gs, g.isValid) (h : ¬ LeadsBack strict named gs) :
    (matcherOf b strict text (nodesOf (casingOf b) 0 (wholePieces gs)) count).search
      (stripQuery (filledPath named gs)) = none := by
  rw [← Option.not_isSome_iff_eq_none]
  intro hsome
  obtain ⟨w, ending, hpath, htakes, hend⟩ := reading_of_search hsome
  have hkept (u : List Char) (hu : .text u ∈ gs) : '#' ∉ u := by
    intro hhash
    have hplain : .plain '#' ∈ wholePieces gs :=
      List.mem_flatMap.mpr ⟨_, hu, List.mem_map_of_mem (List.mem_cons_of_mem _ hhash)⟩
    have hmem : '#' ∈ stripQuery (filledPath named gs) := by
      rw [hpath]
      exact List.mem_append_left _ (htakes.mem_of_plain (by decide) hplain)
    have := List.mem_takeWhile_imp hmem
    simp at this
  rw [stripQuery_filledPath hv hkept] at hpath
  obtain ⟨xs, rfl, hxs⟩ := spelled_of_takes hv htakes
  have hlast {before after : List Whole} {g : Whole} (hsplit : gs = before ++ g :: after)
      (ho : g.isOmitted named) : after = [] ∧ strict = false := by
    have hfilled : filledPath named gs = spell (before.map (Whole.filling named)) ++
        '/' :: spell (after.map (Whole.filling named)) := by
      simp [hsplit, filledPath, spell, filling_of_isOmitted ho]
    obtain ⟨hafter, hstrict⟩ := nil_of_slash hxs hend (hpath.symm.trans hfilled)
    exact ⟨List.map_eq_nil_iff.mp hafter, hstrict⟩
  refine h ⟨hkept, fun g hg => ?_, fun hstrict g hg => ?_⟩
  · by_contra ho
    obtain ⟨before, after, hsplit, hne⟩ := append_of_mem_dropLast hg
    exact hne (hlast hsplit (by simpa using ho)).1
  · by_contra ho
    obtain ⟨before, after, hsplit⟩ := List.append_of_mem hg
    rw [(hlast hsplit (by simpa using ho)).2] at hstrict
    cases hstrict

end Path

end ActionRouting
