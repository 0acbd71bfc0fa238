import Mathlib.Data.List.Forall2
import ActionRouting.Proofs.Path.Matching

/-! Paths of segments each of which is a text or a parameter as a whole. Such a path takes exactly
the texts that have its number of pieces behind slashes, with its own texts in their places: no
parameter stops before the end of its piece, takes a slash, or takes the slash that may be left
over at the end. -/
namespace ActionRouting.Path

open Text Regex

/-- A segment that is a text or a parameter as a whole. -/
inductive Whole
  | text (u : List Char)
  | hole (h : Hole)

namespace Whole

def write : Whole → List Char
  | text u => u
  | hole h => ':' :: h.write

/-- A text has characters, all free of syntax, and a hole has a name. -/
def isValid : Whole → Bool
  | text u => !u.isEmpty && u.all isFree
  | hole h => h.isValid

def isOptional : Whole → Bool
  | text _ => false
  | hole h => h.optional

def pieces : Whole → List (Piece Param)
  | text u => ('/' :: u).map .plain
  | hole h => [.token (h.param true false)]

def segment : Whole → Segment
  | text u => ⟨u, none, none⟩
  | hole h => ⟨[], some (h, []), none⟩

/-- A text that stands for the segment: a text for itself alone, and anything but nothing and
slashes for a parameter. -/
def Admits : Whole → List Char → Prop
  | text u, x => x = u
  | hole _, x => x ≠ [] ∧ '/' ∉ x

end Whole

/-- Texts, each behind a slash. -/
def spell (xs : List (List Char)) : List Char := xs.flatMap ('/' :: ·)

def wholePath (gs : List Whole) : List Char := spell (gs.map Whole.write)

def wholePieces (gs : List Whole) : List (Piece Param) := gs.flatMap Whole.pieces

/-- A path reads a text as one piece for each segment. A slash may be left over at the end unless
slashes are strict. -/
def Reads (strict : Bool) (gs : List Whole) (path : List Char) (xs : List (List Char)) : Prop :=
  List.Forall₂ Whole.Admits gs xs ∧
    (path = spell xs ∨ strict = false ∧ path = spell xs ++ ['/'])

def captured : List Whole → List (List Char) → List (List Char)
  | .hole _ :: gs, x :: xs => x :: captured gs xs
  | .text _ :: gs, _ :: xs => captured gs xs
  | _, _ => []

variable {casing : Casing} {g : Whole} {gs : List Whole} {xs : List (List Char)}
  {w path rest : List Char} {ps : List (Piece Param)} {s : Cursor}

@[simp] lemma spell_nil : spell [] = [] := rfl

@[simp] lemma spell_cons (x : List Char) (xs : List (List Char)) :
    spell (x :: xs) = '/' :: x ++ spell xs := rfl

@[simp] lemma wholePieces_cons (g : Whole) (gs : List Whole) :
    wholePieces (g :: gs) = g.pieces ++ wholePieces gs := rfl

/-! ### What the path is compiled to -/

lemma writePath_segment (gs : List Whole) : writePath (gs.map Whole.segment) = wholePath gs := by
  rw [writePath, wholePath, spell, List.flatMap_map, List.flatMap_map]
  congr 1
  funext g
  cases g <;> simp [Whole.segment, Whole.write, Segment.write]

lemma pathPieces_segment (gs : List Whole) :
    pathPieces (gs.map Whole.segment) = wholePieces gs := by
  rw [pathPieces, wholePieces, List.flatMap_map]
  congr 1
  funext g
  cases g with
  | text u => cases u <;> simp [Whole.segment, Whole.pieces, Segment.body, slashed]
  | hole h => rfl

lemma isOver_segment (hg : g.isValid) : g.segment.isOver isFree := by
  cases g with
  | text u =>
    rw [Whole.isValid, Bool.and_eq_true] at hg
    simp [Whole.segment, Segment.isOver, hg.2]
  | hole h =>
    have hv : h.isValid := hg
    simp [Whole.segment, Segment.isOver, hv, follows]

lemma isOver_segments (hv : ∀ g ∈ gs, g.isValid) :
    ∀ k ∈ gs.map Whole.segment, k.isOver isFree := by
  intro k hk
  obtain ⟨g, hg, rfl⟩ := List.mem_map.mp hk
  exact isOver_segment (hv g hg)

/-- A path of whole segments is compiled to its parts. -/
lemma compile_whole (caseSensitive strict : Bool) (hv : ∀ g ∈ gs, g.isValid) :
    Pattern.compile caseSensitive strict (.text (String.ofList (wholePath gs))) =
      .ok (patternOf (.text (String.ofList (wholePath gs))) (!caseSensitive) strict
        (expression (wholePieces gs)) (nodesOf (casingOf !caseSensitive) 0 (wholePieces gs))
        (slotsOf (wholePieces gs))) := by
  have := compile_segments caseSensitive strict (isOver_segments hv)
  rwa [writePath_segment, pathPieces_segment] at this

/-! ### What the path can take -/

/-- A segment takes its slash and a text without slashes, or it is missing. -/
lemma takes_segment (hg : g.isValid) (h : Takes casing (g.pieces ++ ps) w) :
    ∃ v, Takes casing ps v ∧ ((∃ x, x ≠ [] ∧ '/' ∉ x ∧ w = '/' :: x ++ v ∧
      ∀ u, g = .text u → Takes casing (u.map .plain) x) ∨ g.isOptional ∧ w = v) := by
  cases g with
  | text u =>
    rw [Whole.isValid, Bool.and_eq_true, Bool.not_eq_true', List.isEmpty_eq_false_iff] at hg
    obtain ⟨a, v, rfl, ha, hv⟩ := h.of_append
    refine ⟨v, hv, .inl ?_⟩
    cases ha with
    | @plain _ d _ x hc hx =>
      rw [casing.eq_of_mem_variants (by decide) hc]
      refine ⟨x, ?_, hx.no_slash (isFlat_plains (Segment.not_mem_free hg.2)), rfl, ?_⟩
      · rintro rfl
        exact hg.1 (List.eq_nil_of_length_eq_zero hx.length_eq.symm)
      · rintro u' he
        cases he
        exact hx
  | hole k =>
    cases h with
    | @token _ x _ v hne hs _ hv =>
      refine ⟨v, hv, .inl ⟨x, hne, hs, rfl, ?_⟩⟩
      rintro u' he
      cases he
    | missing ho hv => exact ⟨w, hv, .inr ⟨ho, rfl⟩⟩

/-- What a path takes is spelled by texts that are neither empty nor have slashes. -/
lemma spelled_of_takes (hv : ∀ g ∈ gs, g.isValid) (h : Takes casing (wholePieces gs) w) :
    ∃ xs, w = spell xs ∧ ∀ x ∈ xs, x ≠ [] ∧ '/' ∉ x := by
  induction gs generalizing w with
  | nil =>
    cases h
    exact ⟨[], rfl, by simp⟩
  | cons g gs ih =>
    obtain ⟨v, hrest, htaken⟩ := takes_segment (hv g List.mem_cons_self) h
    obtain ⟨xs, rfl, hxs⟩ := ih (fun g' hg => hv g' (List.mem_cons_of_mem _ hg)) hrest
    rcases htaken with ⟨x, hne, hs, rfl, -⟩ | ⟨-, rfl⟩
    · exact ⟨x :: xs, rfl, List.forall_mem_cons.mpr ⟨⟨hne, hs⟩, hxs⟩⟩
    · exact ⟨xs, rfl, hxs⟩

/-- Where case matters, a text takes itself alone. -/
lemma eq_of_takes_plains {u x : List Char} (h : Takes .exact (u.map .plain) x) : x = u := by
  induction u generalizing x with
  | nil =>
    cases h
    rfl
  | cons c u ih =>
    cases h with
    | plain hc h => rw [ih h, Char.toNat_inj.mp (List.mem_singleton.mp hc)]

/-- Where case matters and no segment may be missing, a path takes one admitted text for each
segment. -/
lemma admitted_of_takes (hv : ∀ g ∈ gs, g.isValid) (ho : ∀ g ∈ gs, g.isOptional = false)
    (h : Takes .exact (wholePieces gs) w) :
    ∃ xs, List.Forall₂ Whole.Admits gs xs ∧ w = spell xs := by
  induction gs generalizing w with
  | nil =>
    cases h
    exact ⟨[], .nil, rfl⟩
  | cons g gs ih =>
    obtain ⟨v, hrest, htaken⟩ := takes_segment (hv g List.mem_cons_self) h
    obtain ⟨xs, hxs, rfl⟩ := ih (fun g' hg => hv g' (List.mem_cons_of_mem _ hg))
      (fun g' hg => ho g' (List.mem_cons_of_mem _ hg)) hrest
    rcases htaken with ⟨x, hne, hs, rfl, htext⟩ | ⟨hm, -⟩
    · refine ⟨x :: xs, .cons ?_ hxs, rfl⟩
      cases g with
      | text u => exact eq_of_takes_plains (htext u rfl)
      | hole k => exact ⟨hne, hs⟩
    · rw [ho g List.mem_cons_self] at hm
      cases hm

/-- Nothing, or a text that begins with a slash or the end of a line. -/
def isBorder (cs : List Char) : Bool := cs.head?.all fun c => c == '/' || c == '\n'

/-- What is taken begins with a slash. So what comes before something that ends at a border begins
with one. -/
lemma isBorder_of_takes (h : Takes casing (wholePieces gs) w) (hr : isBorder rest) :
    isBorder (w ++ rest) := by
  induction gs generalizing w with
  | nil =>
    cases h
    exact hr
  | cons g gs ih =>
    cases g with
    | text u =>
      cases h with
      | plain hc h =>
        rw [casing.eq_of_mem_variants (by decide) hc]
        rfl
    | hole k =>
      cases h with
      | token => rfl
      | missing _ h => exact ih h

lemma IsEndingOf.isBorder {strict : Bool} {cs : List Char} (h : IsEndingOf strict cs) :
    isBorder cs := by
  simp only [IsEndingOf, List.mem_cons, List.not_mem_nil, or_false] at h
  rcases h with (rfl | rfl) | ⟨-, rfl | rfl⟩ <;> rfl

/-! ### How the path takes its own text -/

/-- A text that stands for a segment, with no end of a line where it is the value of a parameter. -/
def Whole.Fills (g : Whole) (x : List Char) : Prop := g.Admits x ∧ (∀ h, g = .hole h → '\n' ∉ x)

/-- Where the capture groups of a path begin and end, its first segment being at `pos`. -/
def wholeMarks : Nat → List Whole → List (List Char) → List Mark
  | pos, .hole _ :: gs, x :: xs =>
    ⟨some (pos + 1), some (pos + 1 + x.length)⟩ :: wholeMarks (pos + 1 + x.length) gs xs
  | pos, .text _ :: gs, x :: xs => wholeMarks (pos + 1 + x.length) gs xs
  | _, _, _ => []

lemma slotsOf_plains (u : List Char) (ps : List (Piece Param)) :
    slotsOf (u.map .plain ++ ps) = slotsOf ps := by
  induction u with
  | nil => rfl
  | cons c u ih => exact ih

lemma slotsOf_text (u : List Char) (gs : List Whole) :
    slotsOf (wholePieces (.text u :: gs)) = slotsOf (wholePieces gs) :=
  slotsOf_plains ('/' :: u) (wholePieces gs)

lemma holesOf_text (u : List Char) (gs : List Whole) :
    holesOf (wholePieces (.text u :: gs)) = holesOf (wholePieces gs) :=
  congrArg List.length (slotsOf_text u gs)

/-- From within a piece the rest of a path does not come to a border: what is left of the piece
begins with no slash. -/
lemma results_within {f : Cursor → List Cursor} (hf : ∀ t, f t ≠ [] → isBorder t.after)
    (count : Nat) (gs : List Whole) {y : List Char} (hne : y ≠ []) (hslash : '/' ∉ y)
    (hline : '\n' ∉ y) (hs : s.after = y ++ rest) :
    ((Node.ofParts (nodesOf casing count (wholePieces gs))).results s).flatMap f = [] := by
  rw [List.flatMap_eq_nil_iff]
  intro t ht
  by_contra hgo
  obtain ⟨c, y, rfl⟩ := List.exists_cons_of_ne_nil hne
  obtain ⟨w, hw, htakes⟩ := takes_of_mem_results ht
  have hborder := isBorder_of_takes htakes (hf t hgo)
  rw [← hw, hs] at hborder
  simp only [isBorder, List.cons_append, List.head?_cons, Option.all_some, Bool.or_eq_true,
    beq_iff_eq] at hborder
  rcases hborder with rfl | rfl
  · exact hslash List.mem_cons_self
  · exact hline List.mem_cons_self

/-- Of all ways to match a path, the first that can be continued at a border takes each piece as a
whole. -/
theorem results_spelled (casing : Casing) {f : Cursor → List Cursor}
    (hf : ∀ t, f t ≠ [] → isBorder t.after) (h : List.Forall₂ Whole.Fills gs xs)
    (done tail : List Mark) (hs : s.after = spell xs ++ rest)
    (hg : s.groups = done ++ (List.replicate (holesOf (wholePieces gs)) ({} : Mark) ++ tail)) :
    ∃ e others, ((Node.ofParts (nodesOf casing done.length (wholePieces gs))).results s).flatMap f =
        f e ++ others ∧ e.after = rest ∧ e.pos = s.pos + (spell xs).length ∧
      e.groups = done ++ (wholeMarks s.pos gs xs ++ tail) := by
  induction h generalizing s done with
  | nil => exact ⟨s, [], by simp [wholePieces, nodesOf, Node.ofParts, Node.results], hs, rfl, hg⟩
  | @cons g x gs xs hx h ih =>
    rw [spell_cons, List.append_assoc] at hs
    cases g with
    | text u =>
      obtain rfl : x = u := hx.1
      rw [holesOf_text] at hg
      obtain ⟨e, others, he, hafter, hpos, hgroups⟩ := ih (s := s.past ('/' :: x)) done
        (Cursor.past_after hs) hg
      refine ⟨e, others, ?_, hafter, ?_, ?_⟩
      · rw [wholePieces_cons, Whole.pieces, nodesOf_plains, results_plains _ hs, he]
      · rw [hpos, spell_cons, List.length_append, ← Nat.add_assoc]
        rfl
      · rw [hgroups, Cursor.past, wholeMarks, List.length_cons, Nat.add_comm x.length,
          ← Nat.add_assoc]
    | hole k =>
      obtain ⟨⟨hne, hslash⟩, hline⟩ := hx
      have hfits : (k.param true false).Fits fun _ => x :=
        ⟨hne, hslash, hline k rfl, fun hd => absurd hd Bool.false_ne_true⟩
      have hlead : s.after = (k.param true false).lead ++ (x ++ (spell xs ++ rest)) := hs
      obtain ⟨earlier, later, hr, hshort⟩ :=
        results_param casing (done.length + 1) hfits hlead
      have hbound : (bound (fun _ => x) (k.param true false) (done.length + 1) s).after =
          spell xs ++ rest := after_bound _ hlead
      have hopen : s.groups = done ++ ({} : Mark) ::
          (List.replicate (holesOf (wholePieces gs)) ({} : Mark) ++ tail) := hg
      have hmark : (bound (fun _ => x) (k.param true false) (done.length + 1) s).groups = _ :=
        groups_bound hopen
      rw [← List.singleton_append, ← List.append_assoc] at hmark
      obtain ⟨e, others, he, hafter, hpos, hgroups⟩ := ih _ hbound hmark
      rw [List.length_append, List.length_singleton] at he
      have hstuck : earlier.flatMap (fun t => ((Node.ofParts (nodesOf casing (done.length + 1)
          (wholePieces gs))).results t).flatMap f) = [] := by
        rw [List.flatMap_eq_nil_iff]
        intro t ht
        obtain ⟨a, y, rfl, hy, ha⟩ := hshort t ht
        exact results_within hf _ gs hy (fun hm => hslash (List.mem_append_right a hm))
          (fun hm => hline k rfl (List.mem_append_right a hm)) ha
      refine ⟨e, others ++ later.flatMap (fun t => ((Node.ofParts (nodesOf casing
        (done.length + 1) (wholePieces gs))).results t).flatMap f), ?_, hafter, ?_, ?_⟩
      · change ((Node.ofParts (nodesOf casing done.length (.token (k.param true false) ::
          wholePieces gs))).results s).flatMap f = _
        rw [nodesOf, Node.results_ofParts_append, List.flatMap_assoc, hr, List.flatMap_append,
          hstuck, List.flatMap_cons, he, List.nil_append, List.append_assoc]
      · have hlen : (k.param true false).lead.length = 1 := rfl
        rw [hpos, pos_bound, hlen, spell_cons, List.length_append, List.length_cons]
        omega
      · rw [hgroups, pos_bound, wholeMarks, List.append_assoc]
        rfl

/-- The same from the beginning of a text, with capture groups left over. -/
lemma results_start (casing : Casing) {f : Cursor → List Cursor}
    (hf : ∀ t, f t ≠ [] → isBorder t.after) (h : List.Forall₂ Whole.Fills gs xs) (k : Nat)
    (hp : path = spell xs ++ rest) :
    ∃ e others, ((Node.ofParts (nodesOf casing 0 (wholePieces gs))).results
        (start (holesOf (wholePieces gs) + k) path)).flatMap f = f e ++ others ∧ e.after = rest ∧
      e.pos = (spell xs).length ∧
      e.groups = wholeMarks 0 gs xs ++ List.replicate k ({} : Mark) := by
  have hgroups : (start (holesOf (wholePieces gs) + k) path).groups =
      [] ++ (List.replicate (holesOf (wholePieces gs)) ({} : Mark) ++
        List.replicate k ({} : Mark)) :=
    List.replicate_append_replicate.symm
  obtain ⟨e, others, he, hafter, hpos, hmarks⟩ := results_spelled casing hf h [] _
    (s := start (holesOf (wholePieces gs) + k) path) hp hgroups
  exact ⟨e, others, he, hafter, hpos.trans (Nat.zero_add _), hmarks⟩

/-- What the capture groups of a path hold are the pieces that stand for parameters. -/
lemma texts_wholeMarks (h : List.Forall₂ Whole.Admits gs xs) (before rest : List Char)
    (hp : path = before ++ (spell xs ++ rest)) :
    (wholeMarks before.length gs xs).map (fun m => m.span?.map (·.of path)) =
      (captured gs xs).map some := by
  induction h generalizing before with
  | nil => rfl
  | @cons g x gs xs hx h ih =>
    have hrest := ih (before ++ '/' :: x) (by rw [hp]; simp)
    rw [List.length_append, List.length_cons, Nat.add_comm x.length, ← Nat.add_assoc] at hrest
    cases g with
    | text u => exact hrest
    | hole k =>
      have hspan : (Span.mk (before.length + 1) (before.length + 1 + x.length)).of path = x := by
        have hsplit : path = (before ++ ['/']) ++ (x ++ (spell xs ++ rest)) := by
          rw [hp]
          simp
        have hlen : (before ++ ['/']).length = before.length + 1 := by simp
        rw [Span.of, hsplit, ← hlen, List.drop_left, Nat.add_sub_cancel_left, List.take_left]
      rw [wholeMarks, List.map_cons, hrest]
      exact congrArg (· :: _) (congrArg some hspan)

lemma results_endNodes_slash (casing : Casing) (hs : s.after = ['/']) :
    ∃ others, (Node.ofParts (endNodes casing false)).results s = s.past ['/'] :: others := by
  have hslash : (charNode casing '/').results s = [s.past ['/']] :=
    Node.results_chars_of_mem hs (contains_char.mpr (casing.mem_variants _))
  have hafter : (s.past ['/']).after = [] := by
    rw [Cursor.past, hs]
    rfl
  have hanchor : (Node.ofParts [.anchor .finalLineEnd]).results (s.past ['/']) =
      [s.past ['/']] := by
    rw [Node.results_ofParts_singleton, Node.results, if_pos (by simp [Anchor.holds, hafter])]
  change ∃ others, (Node.ofParts (_ :: [.anchor .finalLineEnd])).results s = _
  rw [Node.results_ofParts_cons, Node.results_optional, hslash, List.singleton_append,
    List.flatMap_cons, hanchor]
  exact ⟨_, rfl⟩

/-- A path is found in its own text, and in its own text with a slash more unless slashes are
strict. It takes the whole text, and its groups are the pieces that stand for parameters. -/
theorem search_spelled {b strict : Bool} (text : List Char)
    (h : List.Forall₂ Whole.Fills gs xs)
    (hp : path = spell xs ∨ strict = false ∧ path = spell xs ++ ['/']) :
    (matcherOf b strict text (nodesOf (casingOf b) 0 (wholePieces gs))
      (holesOf (wholePieces gs))).search path =
        some ⟨⟨0, path.length⟩, (wholeMarks 0 gs xs).map Mark.span?⟩ := by
  have hf (t : Cursor) (ht : (Node.ofParts (endNodes (casingOf b) strict)).results t ≠ []) :=
    (isEndingOf_of_results ht).isBorder
  rcases hp with rfl | ⟨rfl, rfl⟩
  · obtain ⟨e, others, he, hafter, hpos, hgroups⟩ :=
      results_start (casingOf b) hf h 0 (List.append_nil _).symm
    rw [Nat.add_zero, results_endNodes strict hafter] at he
    rw [search_matcherOf he, hpos, hgroups, List.replicate_zero, List.append_nil]
  · obtain ⟨e, others, he, hafter, hpos, hgroups⟩ := results_start (casingOf b) hf h 0 rfl
    obtain ⟨more, hend⟩ := results_endNodes_slash (casingOf b) hafter
    rw [Nat.add_zero, hend] at he
    rw [search_matcherOf he, Cursor.past, hpos, hgroups, List.replicate_zero, List.append_nil,
      List.length_append]

/-- A reading of a path that has no end of a line. -/
lemma Reads.fills {strict : Bool} (h : Reads strict gs path xs) (hl : '\n' ∉ path) :
    List.Forall₂ Whole.Fills gs xs := by
  have hline : '\n' ∉ spell xs := by
    rcases h.2 with rfl | ⟨-, rfl⟩
    · exact hl
    · exact fun hm => hl (List.mem_append_left _ hm)
  have hadmits := h.1
  clear h
  induction hadmits with
  | nil => exact .nil
  | @cons g x gs xs hx h ih =>
    rw [spell_cons, List.mem_append, not_or, List.mem_cons, not_or] at hline
    exact .cons ⟨hx, fun _ _ => hline.1.2⟩ (ih hline.2)

/-- A path of texts that are free of syntax and of parameters is compiled where case matters. It
matches a text without the end of a line if and only if that has one piece for each segment behind
slashes, none of them empty and the texts in their places, with a slash more at the end if slashes
are not strict. Then it takes all of the text, and its groups are the pieces that stand for its
parameters. -/
theorem search_whole_iff (strict : Bool) {gs : List Whole} (hv : ∀ g ∈ gs, g.isValid)
    (ho : ∀ g ∈ gs, g.isOptional = false) :
    ∃ pattern, Pattern.compile true strict (.text (String.ofList (wholePath gs))) = .ok pattern ∧
      ∀ path, '\n' ∉ path →
        ((pattern.matcher.search path).isSome ↔ ∃ xs, Reads strict gs path xs) ∧
        ∀ m xs, pattern.matcher.search path = some m → Reads strict gs path xs →
          m.span = ⟨0, path.length⟩ ∧ m.texts path = (captured gs xs).map some := by
  refine ⟨_, compile_whole true strict hv, fun path hl => ?_⟩
  have hfound (xs : List (List Char)) (h : Reads strict gs path xs) :=
    search_spelled (b := false) (expression (wholePieces gs)) (h.fills hl) h.2
  refine ⟨⟨fun hsome => ?_, ?_⟩, ?_⟩
  · obtain ⟨w, ending, rfl, htakes, hend⟩ := reading_of_search (b := false) hsome
    obtain ⟨xs, hadmits, rfl⟩ := admitted_of_takes hv ho htakes
    refine ⟨xs, hadmits, ?_⟩
    simp only [IsEndingOf, List.mem_cons, List.not_mem_nil, or_false] at hend
    rcases hend with (rfl | rfl) | ⟨hstrict, rfl | rfl⟩
    · exact .inl (List.append_nil _)
    · exact absurd (by simp) hl
    · exact .inr ⟨hstrict, rfl⟩
    · exact absurd (by simp) hl
  · rintro ⟨xs, h⟩
    exact Option.isSome_of_eq_some (hfound xs h)
  · intro m xs hm h
    obtain rfl := Option.some.inj (hm.symm.trans (hfound xs h))
    refine ⟨rfl, ?_⟩
    obtain ⟨rest, hpath⟩ : ∃ rest, path = [] ++ (spell xs ++ rest) := by
      rcases h.2 with rfl | ⟨-, rfl⟩
      · exact ⟨[], (List.append_nil _).symm⟩
      · exact ⟨['/'], rfl⟩
    rw [Regex.Match.texts, List.map_map]
    exact texts_wholeMarks h.1 [] rest hpath

/-- A slash that is left over is taken, and the parameter before it does not hold it. -/
theorem search_user_slash :
    ∃ pattern, Pattern.compile true false (.text "/users/:id") = .ok pattern ∧
      ∃ m, pattern.matcher.search "/users/7/".toList = some m ∧ m.span = ⟨0, 9⟩ ∧
        m.texts "/users/7/".toList = [some ['7']] := by
  obtain ⟨pattern, hc, hall⟩ := @search_whole_iff false
    [.text "users".toList, .hole ⟨['i', 'd'], false⟩] (by decide) (by decide)
  have hread : Reads false [.text "users".toList, .hole ⟨['i', 'd'], false⟩] "/users/7/".toList
      ["users".toList, ['7']] :=
    ⟨.cons rfl (.cons ⟨by decide, by decide⟩ .nil), .inr ⟨rfl, by decide⟩⟩
  obtain ⟨hsome, htexts⟩ := hall "/users/7/".toList (by decide)
  obtain ⟨m, hm⟩ := Option.isSome_iff_exists.mp (hsome.mpr ⟨_, hread⟩)
  exact ⟨pattern, hc, m, hm, htexts m _ hm hread⟩

end ActionRouting.Path
