import ActionRouting.Proofs.Path.Bare
import ActionRouting.Proofs.Path.Omitted

/-! Paths of whole segments that end in a star for the rest of the path. The star is filled in a
text whose parameters are filled already, and in that text it is the only one. Where the path is
read, the rest is all that comes behind the slash of the star: slashes in it, and nothing at all. -/
namespace ActionRouting

namespace Path

open Text Regex

def restPath (gs : List Whole) : List Char := wholePath gs ++ ['/', '*']

/-- The regular expression for a slash and the rest of the path. -/
def restText : List Char := ['/', '(', '.', '*', ')']

/-- The parts of a regular expression that take a slash and the rest of a line. -/
def restNodes (casing : Casing) (index : Nat) : List Node :=
  [charNode casing '/', .group index
    (.ofParts [.loop true 0 none (.chars ⟨true, [.range 10 10], casing, false⟩)])]

/-- The text that is given for the rest of a path: the value named by a star, else all positional
values with slashes between them. -/
def restGiven (named : OrderedMap Value) (positional : List Value) : List Char :=
  match given? named "*" with
  | some v => v.display.toList
  | none => ['/'].intercalate (positional.map fun v => v.display.toList)

def filledRest (named : OrderedMap Value) (positional : List Value) (gs : List Whole) :
    List Char :=
  filledPath named gs ++ '/' :: Percent.encodePath (restGiven named positional)

variable {casing : Casing} {named : OrderedMap Value} {positional : List Value}
  {gs : List Whole} {xs : List (List Char)} {u rest path : List Char} {s : Cursor}

/-! ### The text of the path -/

/-- A star behind a text without stars is the only one. -/
lemma pieces_trailingStar (h : '*' ∉ u) :
    trailingStar.pieces (u ++ ['/', '*']) = u.map .plain ++ [.token ()] := by
  suffices hc : ∀ before, trailingStar.Cuts before (u ++ ['/', '*'])
      (u.map .plain ++ [.token ()]) from
    (trailingStar_isFaithful.eq_piecesFrom (hc none)).symm
  induction u with
  | nil => exact fun before => .token (t := ()) rfl (.nil _)
  | cons c u ih =>
    obtain ⟨-, hu⟩ := List.ne_and_not_mem_of_not_mem_cons h
    intro before
    refine .plain ?_ (ih hu _)
    change trailingStar.read? before (c :: (u ++ ['/', '*'])) = none
    simp only [trailingStar]
    split
    · next heq =>
      obtain ⟨-, hrest⟩ := List.cons.inj heq
      cases u with
      | nil => cases hrest
      | cons d u =>
        obtain ⟨rfl, -⟩ := List.cons.inj hrest
        exact absurd List.mem_cons_self hu
    · rfl

/-- A path with the rest of the path is filled segment by segment. -/
theorem fill_restPath (hv : ∀ g ∈ gs, g.isValid) (hs : ∀ g ∈ gs, g.IsServed named)
    (hrest : (given? named "*").isSome ∨ positional ≠ []) :
    fill named positional (restPath gs) = filledRest named positional gs := by
  have hpieces : Param.scanner.pieces (restPath gs) =
      wholePieces gs ++ [.plain '/', .plain '*'] := by
    have hstar (before : Option Char) :
        Param.scanner.Cuts before ['/', '*'] [.plain '/', .plain '*'] :=
      .plain rfl (.plain rfl (.nil _))
    have hc := cuts_path extends_param (isOver_segments hv) (by rfl) hstar none
    rw [map_image_id, writePath_segment, pathPieces_segment] at hc
    exact (Param.scanner_isFaithful.eq_piecesFrom hc).symm
  have hreplace : Param.scanner.replace (fillParam named) (restPath gs) =
      filledPath named gs ++ ['/', '*'] := by
    rw [← textOf_wholePieces hs, Scanner.replace, hpieces, List.flatMap_append, textOf]
    congr 2
    funext p
    cases p <;> rfl
  have hstar : '*' ∉ filledPath named gs :=
    not_mem_filledPath hv (by decide) (by decide) (by decide)
  have hfill : (fillStar named positional ()).2 =
      '/' :: Percent.encodePath (restGiven named positional) := by
    rw [fillStar, restGiven]
    cases hg : given? named "*" with
    | some v => rfl
    | none =>
      have hne : positional ≠ [] := by simpa [hg] using hrest
      rw [Percent.encodePath_intercalate, List.map_map]
      simp [hne]
      rfl
  rw [fill, hreplace, Scanner.replaceWith_eq_render, pieces_trailingStar hstar,
    Scanner.render_plains, Scanner.render, Scanner.render, List.append_nil, hfill, filledRest]

/-- A filled path without a hash is kept as a whole. -/
lemma stripQuery_filledRest (hv : ∀ g ∈ gs, g.isValid) (hh : ∀ u, .text u ∈ gs → '#' ∉ u) :
    stripQuery (filledRest named positional gs) = filledRest named positional gs := by
  have hpath : stripQuery (filledPath named gs) = filledPath named gs :=
    stripQuery_filledPath hv hh
  have htail : ∀ c ∈ '/' :: Percent.encodePath (restGiven named positional),
      c != '?' && c != '#' := by
    intro c hc
    have hpart : Percent.isSegmentChar c ∨ c = '/' := by
      rcases List.mem_cons.mp hc with rfl | hc
      · exact .inr rfl
      · exact Percent.mem_encodePath hc
    have hne (d : Char) (hd : Percent.isSegmentChar d = false) (hs : d ≠ '/') : c ≠ d := by
      rintro rfl
      rw [hd] at hpart
      exact hpart.elim Bool.false_ne_true hs
    simp [hne '?' (by decide) (by decide), hne '#' (by decide) (by decide)]
  rw [stripQuery, List.takeWhile_eq_self_iff] at hpath ⊢
  exact fun c hc => (List.mem_append.mp hc).elim (hpath c) (htail c)

/-! ### What the path is compiled to -/

def restTokens : List Token :=
  [.char 47, .openCapture none, .dot, .quantifier .greedy 0 none, .close]

lemma lexes_rest {more : List Char} {ts : List Token} (hr : endsPart more) (h : Lexes more ts) :
    Lexes (restText ++ more) (restTokens ++ ts) :=
  .cons rfl (Nat.le_refl _) (isQuiet_char _) (lexes_bare (q := .token .wildcard) rfl hr h)

lemma adds_rest {q : Parser} {b : Bool} (hf : q.frame.flags = { ignoreCase := b })
    (hd : q.depth ≤ 100) :
    q.Adds restTokens (restNodes (casingOf b) (q.groups.length + 1)) 1 := by
  refine (adds_lead hf true '/').append (n := 0) (m := 1) fun parts widths hw => ?_
  have := adds_wildcard (r := q.grown parts widths) hf hd
  rwa [Parser.grown_groups, List.length_append, hw] at this

/-- A path with the rest of the path is compiled to its parts. -/
lemma compile_restPath (caseSensitive strict : Bool) (hv : ∀ g ∈ gs, g.isValid) :
    Pattern.compile caseSensitive strict (.text (String.ofList (restPath gs))) =
      .ok (patternOf (.text (String.ofList (restPath gs))) (!caseSensitive) strict
        (expression (wholePieces gs) ++ restText)
        (nodesOf (casingOf !caseSensitive) 0 (wholePieces gs) ++
          restNodes (casingOf !caseSensitive) (holesOf (wholePieces gs) + 1))
        (slotsOf (wholePieces gs) ++ [({} : Slot)])) := by
  have hd := isPartOver_path (isOver_segments hv)
  rw [pathPieces_segment] at hd
  have hfragments : Fragment.scanner.pieces (restPath gs) =
      (wholePieces gs).map (image .param) ++ [.plain '/', .token Fragment.wildcard] := by
    have hstar (before : Option Char) :
        Fragment.scanner.Cuts before ['/', '*'] [.plain '/', .token .wildcard] :=
      .plain rfl (.token (t := Fragment.wildcard) rfl (.nil _))
    have hc := cuts_path extends_fragment (isOver_segments hv) (by rfl) hstar none
    rw [writePath_segment, pathPieces_segment] at hc
    exact (Fragment.scanner_isFaithful.eq_piecesFrom hc).symm
  have hpieces := ofPieces_append (ofPieces_parts hd)
    (show Pattern.ofPieces [.plain '/', .token Fragment.wildcard] = .ok (restText, [{}]) from
      rfl)
  have hadds (q : Parser) (hf : q.frame.flags = { ignoreCase := !caseSensitive })
      (hq : q.depth = 0) (hn : q.groups.length = 0) :
      q.Adds ((wholePieces gs).flatMap tokensOf ++ restTokens)
        (nodesOf (casingOf !caseSensitive) 0 (wholePieces gs) ++
          restNodes (casingOf !caseSensitive) (holesOf (wholePieces gs) + 1))
        (holesOf (wholePieces gs) + 1) := by
    have hfirst := adds_pieces hf (by omega) (wholePieces gs)
    rw [hn] at hfirst
    refine hfirst.append fun parts widths hw => ?_
    have hrest := adds_rest (q := q.grown parts widths) hf (by
      rw [Parser.grown_depth, hq]
      omega)
    rwa [Parser.grown_groups, List.length_append, hn, hw, Nat.zero_add] at hrest
  have hcompile := @compile_path (!caseSensitive) strict (expression (wholePieces gs) ++ restText)
    _ _ _ (fun more us hr h => by
      rw [List.append_assoc, List.append_assoc]
      exact lexes_expression hd (by rfl) (lexes_rest hr h))
    hadds (by rw [List.all_append, isBasic_nodesOf]; rfl)
  have hcount : holesOf (wholePieces gs) + 1 =
      (slotsOf (wholePieces gs) ++ [({} : Slot)]).length := by
    rw [List.length_append, holesOf]
    rfl
  rw [Pattern.compile, Pattern.ofText, String.toList_ofList, hfragments, hpieces]
  simp only [bind, Except.bind]
  rw [hcompile, patternOf, ← hcount]
  rfl

/-! ### How the path takes its own text -/

lemma contains_anything (casing : Casing) {c : Char} (hc : c ≠ '\n') :
    (CharSet.mk true [.range 10 10] casing false).contains c := by
  have hnone : ∀ n ∈ casing.variants c, ¬ (10 ≤ n ∧ n ≤ 10) := by
    rintro n hn ⟨hlo, hhi⟩
    obtain rfl : n = '\n'.toNat := Nat.le_antisymm hhi hlo
    exact hc (casing.eq_of_mem_variants (by decide) hn)
  simpa [CharSet.contains, Member.contains, planeEnd] using hnone

/-- The ways to go on behind the segments: past a slash and the rest of the path, to the end. -/
def restWays (b strict : Bool) (index : Nat) (s : Cursor) : List Cursor :=
  ((Node.ofParts (restNodes (casingOf b) index)).results s).flatMap
    (Node.ofParts (endNodes (casingOf b) strict)).results

lemma isBorder_of_restWays {b strict : Bool} {index : Nat} (hne : restWays b strict index s ≠ []) :
    isBorder s.after := by
  obtain ⟨e, he⟩ := List.exists_mem_of_ne_nil _ hne
  obtain ⟨t, ht, -⟩ := List.mem_flatMap.mp he
  rw [restNodes, Node.results_ofParts_cons] at ht
  obtain ⟨v, hv, -⟩ := List.mem_flatMap.mp ht
  obtain ⟨c, hc, ha, -⟩ := Node.mem_results_chars hv
  rw [ha, (casingOf b).eq_of_mem_variants (by decide) (contains_char.mp hc)]
  rfl

def pastRest (u : List Char) (index : Nat) (s : Cursor) : Cursor :=
  (((s.past ['/']).enter index).past u).leave index

/-- The rest of a path is taken to its end, whatever it is. -/
lemma restWays_eq (b strict : Bool) (index : Nat) (hs : s.after = '/' :: u) (hl : '\n' ∉ u) :
    ∃ others, restWays b strict index s = pastRest u index s :: others := by
  have hslash : (charNode (casingOf b) '/').results s = [s.past ['/']] :=
    Node.results_chars_of_mem hs (contains_char.mpr ((casingOf b).mem_variants _))
  have hopen : ((s.past ['/']).enter index).after = u ++ [] := by
    rw [List.append_nil]
    exact Cursor.past_after (u := ['/']) hs
  obtain ⟨later, hloop⟩ := Node.results_eager hopen
    (fun c hc => contains_anything (casingOf b) (ne_of_mem_of_not_mem hc hl)) rfl
  have hend : (pastRest u index s).after = [] :=
    Cursor.past_after (s := (s.past ['/']).enter index) hopen
  refine ⟨(later.map (·.leave index)).flatMap
    (Node.ofParts (endNodes (casingOf b) strict)).results, ?_⟩
  rw [restWays, restNodes, Node.results_ofParts_cons, hslash, List.flatMap_cons, List.flatMap_nil,
    List.append_nil, Node.results_ofParts_singleton, Node.results, Node.results_ofParts_singleton,
    hloop, List.map_cons, List.flatMap_cons, ← pastRest, results_endNodes strict hend]
  rfl

/-- The mark of the rest of a path, whose slash is at `pos`. -/
def restMark (pos : Nat) (u : List Char) : Mark := ⟨some (pos + 1), some (pos + 1 + u.length)⟩

/-- Each parameter has a capture group. -/
lemma length_wholeMarks (pos : Nat) (hx : List.Forall₂ Whole.Admits gs xs) :
    (wholeMarks pos gs xs).length = holesOf (wholePieces gs) := by
  induction hx generalizing pos with
  | nil => rfl
  | @cons g x gs xs hg hx ih =>
    cases g with
    | text u => rw [holesOf_text, wholeMarks, ih]
    | hole h =>
      rw [wholeMarks, List.length_cons, ih]
      rfl

/-- A path is found in its own text with any rest of the path. It takes the whole text, and its
groups are the pieces that stand for parameters, and the rest. -/
theorem search_rest {b strict : Bool} (text : List Char) (hx : List.Forall₂ Whole.Fills gs xs)
    (hl : '\n' ∉ u) :
    (matcherOf b strict text (nodesOf (casingOf b) 0 (wholePieces gs) ++
        restNodes (casingOf b) (holesOf (wholePieces gs) + 1))
      (holesOf (wholePieces gs) + 1)).search (spell xs ++ '/' :: u) =
        some ⟨⟨0, (spell xs ++ '/' :: u).length⟩,
          (wholeMarks 0 gs xs ++ [restMark (spell xs).length u]).map Mark.span?⟩ := by
  have hborder (t : Cursor)
      (ht : restWays b strict (holesOf (wholePieces gs) + 1) t ≠ []) := isBorder_of_restWays ht
  obtain ⟨e, others, he, hafter, hpos, hgroups⟩ := results_start (casingOf b) hborder hx 1 rfl
  obtain ⟨more, hrest⟩ := restWays_eq b strict (holesOf (wholePieces gs) + 1) hafter hl
  rw [hrest, List.cons_append] at he
  have hways : ((Node.ofParts (nodesOf (casingOf b) 0 (wholePieces gs) ++
      restNodes (casingOf b) (holesOf (wholePieces gs) + 1))).results
        (start (holesOf (wholePieces gs) + 1) (spell xs ++ '/' :: u))).flatMap
          (Node.ofParts (endNodes (casingOf b) strict)).results =
            pastRest u (holesOf (wholePieces gs) + 1) e :: (more ++ others) := by
    rw [Node.results_ofParts_append, List.flatMap_assoc]
    exact he
  have hmarks : (pastRest u (holesOf (wholePieces gs) + 1) e).groups =
      wholeMarks 0 gs xs ++ [restMark (spell xs).length u] := by
    rw [← length_wholeMarks 0 (hx.imp fun _ _ h => h.1)]
    have hopen : (e.past ['/']).groups = wholeMarks 0 gs xs ++ ({} : Mark) :: [] := hgroups
    have henter := groups_enter hopen
    have hleave := groups_leave (s := ((e.past ['/']).enter _).past u) henter
    rw [pastRest, hleave, restMark, ← hpos]
    rfl
  have hstop : (pastRest u (holesOf (wholePieces gs) + 1) e).pos =
      (spell xs ++ '/' :: u).length := by
    rw [List.length_append, List.length_cons, ← hpos]
    change e.pos + 1 + u.length = _
    omega
  rw [search_matcherOf hways, hmarks, hstop]

/-- A filled path is found in its own text. The groups of its parameters hold their values, and the
last group holds the rest of the path. -/
theorem search_filledRest (b strict : Bool) (text : List Char) (positional : List Value)
    (hs : ∀ g ∈ gs, g.IsServed named) (ho : ∀ g ∈ gs, g.isOmitted named = false) :
    ∃ m, (matcherOf b strict text (nodesOf (casingOf b) 0 (wholePieces gs) ++
        restNodes (casingOf b) (holesOf (wholePieces gs) + 1))
      (holesOf (wholePieces gs) + 1)).search (filledRest named positional gs) = some m ∧
      m.isCrossed = false ∧ m.texts (filledRest named positional gs) = heldOf named gs ++
        [some (Percent.encodePath (restGiven named positional))] := by
  have hx := forall₂_filling hs ho
  have hline : '\n' ∉ Percent.encodePath (restGiven named positional) := fun hm =>
    absurd (Percent.mem_encodePath hm) (by decide)
  refine ⟨_, search_rest text hx hline, isCrossed_eq_false.mpr ?_, ?_⟩
  · rw [List.all_append, isOrdered_wholeMarks]
    simp [isOrdered, restMark, Mark.span?]
  · rw [Regex.Match.texts, List.map_map, List.map_append, ← captured_filling ho]
    refine congrArg₂ (· ++ ·)
      (texts_wholeMarks (hx.imp fun _ _ h => h.1) [] _ rfl) (congrArg (fun x => [some x]) ?_)
    -- The last group begins right behind its slash.
    change Span.of ⟨(spell (gs.map (Whole.filling named))).length + 1, _⟩ (_ ++ '/' :: _) = _
    rw [Span.of, Nat.add_sub_cancel_left, ← List.singleton_append, ← List.append_assoc,
      List.drop_left' (by simp [filledPath]), List.take_length]

/-- What the groups of parameters hold is decoded to their values. -/
lemma decode_heldOf (ho : ∀ g ∈ gs, g.isOmitted named = false) :
    (heldOf named gs).map (Option.map fun text => String.ofList (Percent.decode text)) =
      (supplied named gs).map (some ·.2) := by
  induction gs with
  | nil => rfl
  | cons g gs ih =>
    have ih := ih fun g' hg => ho g' (List.mem_cons_of_mem _ hg)
    cases g with
    | text u => exact ih
    | hole h =>
      obtain ⟨v, hv⟩ := exists_given (ho _ List.mem_cons_self)
      rw [heldOf_hole, supplied_of_some hv, hv, List.map_cons, List.map_cons, ih, Option.map_some,
        Option.map_some, Path.segment, Percent.decode_encodeSegment, String.ofList_toList]

/-- Groups that hold the values of the parameters and the rest of a path give the values as texts,
and the rest as it was given. -/
lemma decodeGroups_filledRest {m : Regex.Match} (ho : ∀ g ∈ gs, g.isOmitted named = false)
    (h : m.texts path = heldOf named gs ++
      [some (Percent.encodePath (restGiven named positional))]) :
    decodeGroups m path = (supplied named gs).map (some ·.2) ++
      [some (String.ofList (restGiven named positional))] := by
  rw [decodeGroups, h, List.map_append, decode_heldOf ho, List.map_singleton, Option.map_some,
    Percent.decode_encodePath]

/-- The rest of a path is no parameter. -/
lemma paramsOf_filledRest {m : Regex.Match} (h : m.texts path = heldOf named gs ++
      [some (Percent.encodePath (restGiven named positional))]) :
    paramsOf (slotsOf (wholePieces gs) ++ [({} : Slot)]) (decodeGroups m path) =
      .ofPairs (supplied named gs) := by
  have hlen (gs : List Whole) : (slotsOf (wholePieces gs)).length = (heldOf named gs).length := by
    induction gs with
    | nil => rfl
    | cons g gs ih =>
      cases g with
      | text u =>
        rw [slotsOf_text]
        exact ih
      | hole h => exact congrArg (· + 1) ih
  rw [paramsOf, decodeGroups, h, List.map_append, List.zip_append (by simp [hlen]),
    List.filterMap_append, filterMap_zip_heldOf]
  exact congrArg _ (List.append_nil _)

end Path

end ActionRouting
