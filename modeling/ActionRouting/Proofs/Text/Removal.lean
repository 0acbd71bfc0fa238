import Mathlib.Data.List.Infix
import Mathlib.Data.Nat.Find
import Mathlib.Tactic.Lemma
import ActionRouting.Text.Search

/-! What is left of a text when a part is removed from it. Removal takes out every occurrence of the
part, the first one first. So a part at the end of a text can be taken off in this way only if it
stands nowhere before and nothing else is lost with the first occurrence. -/
namespace ActionRouting.Text

/-- The part stands in the text for the first time between the two others. -/
structure FirstIn (part before after cs : List Char) : Prop where
  eq : cs = before ++ part ++ after
  least : ∀ b a, cs = b ++ part ++ a → before.length ≤ b.length

/-- What stands before a part at the end is what remains when the part is taken out where it stands
first, and the part does not stand in it. -/
def IsRecoverable (front part : List Char) : Prop :=
  ¬ part <:+: front ∧
    ∃ before after, FirstIn part before after (front ++ part) ∧ before ++ after = front

variable {part front before after cs : List Char}

lemma exists_firstIn (h : part <:+: cs) : ∃ before after, FirstIn part before after cs := by
  classical
  have hsome : ∃ n, ∃ b a, b.length = n ∧ cs = b ++ part ++ a := by
    obtain ⟨b, a, rfl⟩ := h
    exact ⟨b.length, b, a, rfl, rfl⟩
  obtain ⟨before, after, hlength, heq⟩ := Nat.find_spec hsome
  refine ⟨before, after, heq, fun b a hb => ?_⟩
  rw [hlength]
  exact Nat.find_min' hsome ⟨b, a, rfl, hb⟩

lemma removeFrom_length (u cs : List Char) :
    removeFrom part u.length (u ++ cs) = remove part cs := by
  induction u with
  | nil => rfl
  | cons c u ih => rw [List.length_cons, List.cons_append, removeFrom, ih]

lemma remove_append (hp : part ≠ []) (cs : List Char) :
    remove part (part ++ cs) = remove part cs := by
  obtain ⟨c, u, rfl⟩ := List.exists_cons_of_ne_nil hp
  rw [remove, List.cons_append, removeFrom, if_pos (by simp)]
  exact removeFrom_length u cs

lemma remove_cons {c : Char} (h : ¬ part <+: c :: cs) :
    remove part (c :: cs) = c :: remove part cs := by
  have hprefix : part.isPrefixOf (c :: cs) = false := by
    rw [Bool.eq_false_iff]
    exact fun hp => h (List.isPrefixOf_iff_prefix.mp hp)
  rw [remove, removeFrom, hprefix, Bool.and_false]
  rfl

/-- The first occurrence is taken out, and what stands before it remains. -/
theorem remove_of_firstIn (hp : part ≠ []) (h : FirstIn part before after cs) :
    remove part cs = before ++ remove part after := by
  induction before generalizing cs with
  | nil =>
    rw [h.eq, List.nil_append, remove_append hp]
    rfl
  | cons c before ih =>
    have hfirst : FirstIn part before after (before ++ part ++ after) := by
      refine ⟨rfl, fun b a hb => ?_⟩
      have := h.least (c :: b) a (by rw [h.eq, List.cons_append, List.cons_append, hb]; rfl)
      simpa using this
    have hprefix : ¬ part <+: c :: (before ++ part ++ after) := by
      rintro ⟨a, ha⟩
      have := h.least [] a (by rw [h.eq, List.nil_append, ha]; rfl)
      simp at this
    rw [h.eq, List.cons_append, List.cons_append, remove_cons hprefix, ih hfirst]
    rfl

/-- A text in which the part does not stand stays. -/
theorem remove_of_absent (h : ¬ part <:+: cs) : remove part cs = cs := by
  induction cs with
  | nil => rfl
  | cons c cs ih =>
    rw [remove_cons fun hp => h hp.isInfix,
      ih fun hp => h (hp.trans (List.suffix_cons c cs).isInfix)]

lemma length_remove_le (hp : part ≠ []) (cs : List Char) :
    (remove part cs).length ≤ cs.length := by
  induction hn : cs.length using Nat.strongRecOn generalizing cs with
  | _ n ih =>
    subst hn
    by_cases h : part <:+: cs
    · obtain ⟨before, after, hfirst⟩ := exists_firstIn h
      have hpart := List.length_pos_iff.mpr hp
      have heq := congrArg List.length hfirst.eq
      simp only [List.length_append] at heq
      have := ih after.length (by omega) after rfl
      rw [remove_of_firstIn hp hfirst, List.length_append]
      omega
    · rw [remove_of_absent h]

/-- A text in which the part stands gets shorter. -/
lemma length_remove_lt (hp : part ≠ []) (h : part <:+: cs) :
    (remove part cs).length < cs.length := by
  obtain ⟨before, after, hfirst⟩ := exists_firstIn h
  have hpart := List.length_pos_iff.mpr hp
  have heq := congrArg List.length hfirst.eq
  simp only [List.length_append] at heq
  have := length_remove_le hp after
  rw [remove_of_firstIn hp hfirst, List.length_append]
  omega

/-- Removing the part from a text that ends with it leaves what stands before it if and only if that
is recoverable. -/
theorem remove_append_eq_iff (hp : part ≠ []) :
    remove part (front ++ part) = front ↔ IsRecoverable front part := by
  constructor
  · intro h
    obtain ⟨before, after, hfirst⟩ := exists_firstIn (List.suffix_append front part).isInfix
    rw [remove_of_firstIn hp hfirst] at h
    have heq := congrArg List.length hfirst.eq
    have hkept := congrArg List.length h
    simp only [List.length_append] at heq hkept
    -- Nothing is removed behind the first occurrence, or too little would be left.
    have hafter : ¬ part <:+: after := fun hin => by
      have := length_remove_lt hp hin
      omega
    rw [remove_of_absent hafter] at h
    refine ⟨fun hin => hafter ?_, before, after, hfirst, h⟩
    obtain ⟨b, a, hb⟩ := hin
    have hleast := hfirst.least b (a ++ part) (by simp [← hb])
    have hlong : part.length ≤ after.length := by
      have := congrArg List.length hb
      simp only [List.length_append] at this
      omega
    have hsuffix : after <:+ front ++ part := ⟨before ++ part, hfirst.eq.symm⟩
    exact (List.suffix_of_suffix_length_le (List.suffix_append front part) hsuffix hlong).isInfix
  · rintro ⟨hnot, before, after, hfirst, h⟩
    have hafter : ¬ part <:+: after := fun hin =>
      hnot (hin.trans (h ▸ (List.suffix_append before after).isInfix))
    rw [remove_of_firstIn hp hfirst, remove_of_absent hafter, h]

end ActionRouting.Text
