import ActionRouting.Proofs.Path.Matching

/-! Searching for a regular expression that matches at the start of a text or not at all. -/
namespace ActionRouting.Regex

/-- A search looks at every place, and finds the first of all ways to match there. -/
structure IsDirect (r : Regex) : Prop where
  first : r.first = none
  room : r.room = 0
  shortest : r.shortest = 0
  byTrial : r.byTrial = false

variable {r : Regex} {path : List Char}

lemma preferred_of_byTrial (h : r.byTrial = false) (s : Cursor) :
    r.preferred s = (r.root.results s).head? := by
  rw [preferred, h, if_neg Bool.false_ne_true]

/-- A way to match from the start of a text is found by a search. -/
theorem search_of_results (hr : r.IsDirect) {e : Cursor} {others : List Cursor}
    (h : r.root.results (Path.start r.groupCount path) = e :: others) :
    r.search path = some ⟨⟨0, e.pos⟩, e.groups.map Mark.span?⟩ := by
  have hmatch : r.matchAt (Path.start r.groupCount path) =
      some ⟨⟨0, e.pos⟩, e.groups.map Mark.span?⟩ := by
    have hadmits : r.admits (Path.start r.groupCount path) := by
      simp [admits, hr.first, hr.room, hr.shortest]
    rw [matchAt, if_pos hadmits, preferred_of_byTrial hr.byTrial, h]
    rfl
  rw [search_eq]
  cases path with
  | nil => rw [Cursor.positions, List.findSome?_cons, ← Path.start, hmatch]
  | cons c path => rw [Cursor.positions, List.findSome?_cons, ← Path.start, hmatch]

/-- What is found of an expression that begins with the start of a text is the first way to match
from there. -/
theorem results_of_search (hr : r.byTrial = false) {nodes : List Node}
    (hroot : r.root = .ofParts (.anchor .textStart :: nodes)) {m : Match}
    (h : r.search path = some m) :
    ∃ e, ((Node.ofParts nodes).results (Path.start r.groupCount path)).head? = some e ∧
      m = ⟨⟨0, e.pos⟩, e.groups.map Mark.span?⟩ := by
  rw [search_eq] at h
  obtain ⟨s, hs, hm⟩ := List.exists_of_findSome?_eq_some h
  unfold matchAt at hm
  split at hm
  · rw [preferred_of_byTrial hr, hroot, Node.results_ofParts_cons, Node.results] at hm
    obtain ⟨e, he, rfl⟩ := Option.map_eq_some_iff.mp hm
    split at he
    · next hstart =>
      rw [List.flatMap_cons, List.flatMap_nil, List.append_nil] at he
      rcases Path.mem_positions hs with rfl | hbefore
      · exact ⟨e, he, rfl⟩
      · exact absurd (List.isEmpty_iff.mp hstart) hbefore
    · cases he
  · cases hm

end ActionRouting.Regex
