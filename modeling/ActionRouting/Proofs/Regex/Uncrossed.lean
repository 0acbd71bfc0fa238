import ActionRouting.Proofs.Path.AtomReadings
import ActionRouting.Proofs.Regex.Local

/-! Capture groups that are left no earlier than they are entered. An expression that looks at
nothing but the characters that it takes crosses no group: whatever it took before, it leaves each
group at the position that it has come to. -/
namespace ActionRouting.Regex

open ActionRouting.Path

/-- No capture group was entered beyond the position. -/
def Cursor.IsBehind (s : Cursor) : Prop := ∀ m ∈ s.groups, ∀ k, m.start = some k → k ≤ s.pos

/-- Each capture group that is not crossed at one position is not crossed at the other. -/
def Cursor.Uncrosses (s e : Cursor) : Prop :=
  ∀ i : Nat, (s.groups[i]?).all isOrdered → (e.groups[i]?).all isOrdered

variable {s t e : Cursor}

lemma Cursor.IsBehind.mark (h : s.IsBehind) (index k : Nat) (hk : (s.mark index).start = some k) :
    k ≤ s.pos := by
  unfold Cursor.mark at hk
  cases hm : s.groups[index - 1]? with
  | none =>
    rw [hm] at hk
    cases hk
  | some m =>
    rw [hm] at hk
    exact h m (List.mem_of_getElem? hm) k hk

lemma Cursor.IsBehind.enter (h : s.IsBehind) (index : Nat) : (s.enter index).IsBehind := by
  intro m hm k hk
  rcases List.mem_or_eq_of_mem_set hm with hm | rfl
  · exact h m hm k hk
  · exact Nat.le_of_eq (Option.some.inj hk).symm

lemma Cursor.IsBehind.leave (h : s.IsBehind) (index : Nat) : (s.leave index).IsBehind := by
  intro m hm k hk
  rcases List.mem_or_eq_of_mem_set hm with hm | rfl
  · exact h m hm k hk
  · exact h.mark index k hk

/-- A group that is left is not crossed, and the other groups are as they were. -/
lemma Cursor.Uncrosses.leave {index : Nat} (ht : t.IsBehind) (h : (s.enter index).Uncrosses t) :
    s.Uncrosses (t.leave index) := by
  intro i hs
  by_cases hi : index - 1 = i
  · subst hi
    rw [Cursor.leave, List.getElem?_set_self']
    cases hm : t.groups[index - 1]? with
    | none => rfl
    | some m =>
      have hmark : t.mark index = m := by rw [Cursor.mark, hm, Option.getD_some]
      have hstart := ht.mark index
      rw [hmark] at hstart ⊢
      change isOrdered { m with stop := some t.pos } = true
      obtain ⟨start, stop⟩ := m
      cases start with
      | none => rfl
      | some k => simpa [isOrdered, Mark.span?] using hstart k rfl
  · rw [Cursor.leave, List.getElem?_set_ne hi]
    refine h i ?_
    rwa [Cursor.enter, List.getElem?_set_ne hi]

/-- What matches crosses no capture group. -/
theorem Node.uncrosses_of_mem_results {n : Node} (hn : n.isLocal) (h : e ∈ n.results s)
    (hs : s.IsBehind) : s.Uncrosses e := by
  suffices s.IsBehind → e.IsBehind ∧ s.Uncrosses e from (this hs).2
  refine rel_of_mem_results (R := fun s e => s.IsBehind → e.IsBehind ∧ s.Uncrosses e) ?_ ?_ ?_ ?_
    hn h
  · exact fun s hs => ⟨hs, fun _ h => h⟩
  · intro s t e hst hte hs
    obtain ⟨ht, hu⟩ := hst hs
    obtain ⟨he, hu'⟩ := hte ht
    exact ⟨he, fun i h => hu' i (hu i h)⟩
  · exact fun _ hs => ⟨fun m hm k hk => Nat.le_succ_of_le (hs m hm k hk), fun _ h => h⟩
  · intro s t index hst hs
    obtain ⟨ht, hu⟩ := hst (hs.enter index)
    exact ⟨ht.leave index, .leave ht hu⟩

/-- From the beginning of a text no capture group is crossed. -/
lemma all_isOrdered_of_mem_results {n : Node} {count : Nat} {path : List Char} (hn : n.isLocal)
    (h : e ∈ n.results (start count path)) : e.groups.all isOrdered := by
  have hbehind : (start count path).IsBehind := by
    intro m hm k hk
    rw [List.eq_of_mem_replicate hm] at hk
    cases hk
  rw [List.all_eq_true]
  intro m hm
  obtain ⟨i, hi⟩ := List.mem_iff_getElem?.mp hm
  have hstart : ((start count path).groups[i]?).all isOrdered := by
    rw [start, List.getElem?_replicate]
    split <;> rfl
  have := Node.uncrosses_of_mem_results hn h hbehind i hstart
  rwa [hi] at this

/-- A path whose parts look at nothing but what they take crosses no capture group. -/
theorem isCrossed_of_search {b strict : Bool} {text path : List Char} {nodes : List Node}
    {count : Nat} {m : Match} (hn : (Node.ofParts nodes).isLocal)
    (h : (matcherOf b strict text nodes count).search path = some m) : m.isCrossed = false := by
  obtain ⟨t, ht, e, he, rfl⟩ := exists_way_of_search h
  rw [isCrossed_eq_false, groups_of_mem_endNodes he]
  exact all_isOrdered_of_mem_results hn ht

end ActionRouting.Regex
