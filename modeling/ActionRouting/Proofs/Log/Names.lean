import Mathlib.Data.List.Basic
import Mathlib.Tactic.Lemma
import ActionRouting.Log.Registry

/-! The names above a dotted name. Each stands before one of its dots, and they come from the
longest to the shortest. None is left out unless there are two dots in a row. -/
namespace ActionRouting.Log.Registry

variable {cs : List Char} {m n a b : String} {limit fuel i : Nat}

/-- A name lies above another if it is what comes before one of the dots of the other, and is not
empty. -/
def IsAbove (m n : String) : Prop := m ≠ "" ∧ ∃ rest, n.toList = m.toList ++ '.' :: rest

lemma IsAbove.length_lt (h : IsAbove m n) : m.length < n.length := by
  obtain ⟨-, rest, hn⟩ := h
  rw [← String.length_toList, ← String.length_toList, hn]
  simp

lemma IsAbove.isPrefix (h : IsAbove m n) : m.toList <+: n.toList := by
  obtain ⟨-, rest, hn⟩ := h
  exact ⟨_, hn.symm⟩

/-- Of two names above one, the shorter is above the longer. -/
lemma IsAbove.of_length_lt (ha : IsAbove a n) (hb : IsAbove b n) (h : b.length < a.length) :
    IsAbove b a := by
  obtain ⟨hne, rest, hn⟩ := hb
  obtain ⟨v, hv⟩ := ha.isPrefix
  have hb : b.toList ++ ['.'] <+: a.toList := by
    refine List.prefix_of_prefix_length_le ⟨rest, ?_⟩ ⟨v, hv⟩ ?_
    · rw [hn, List.append_assoc, List.singleton_append]
    · rwa [List.length_append, String.length_toList, String.length_toList]
  obtain ⟨w, hw⟩ := hb
  exact ⟨hne, w, by rw [← hw, List.append_assoc, List.singleton_append]⟩

lemma IsAbove.trans (hb : IsAbove b a) (ha : IsAbove a n) : IsAbove b n := by
  obtain ⟨hne, rest, hr⟩ := hb
  obtain ⟨-, v, hv⟩ := ha
  exact ⟨hne, rest ++ '.' :: v, by rw [hv, hr, List.append_assoc, List.cons_append]⟩

/-- Names above one that are equally long are one. -/
lemma IsAbove.eq_of_length (ha : IsAbove a n) (hb : IsAbove b n) (h : a.length = b.length) :
    a = b := by
  rw [← String.length_toList, ← String.length_toList] at h
  exact String.toList_inj.mp
    ((List.prefix_of_prefix_length_le ha.isPrefix hb.isPrefix (Nat.le_of_eq h)).eq_of_length h)

/-- Of two names above one, the longer begins with the shorter. -/
lemma IsAbove.startsWith_iff (ha : IsAbove a n) (hb : IsAbove b n) :
    a.startsWith b ↔ b.length ≤ a.length := by
  rw [String.startsWith_string_iff]
  constructor
  · intro h
    simpa only [String.length_toList] using h.length_le
  · intro h
    exact List.prefix_of_prefix_length_le hb.isPrefix ha.isPrefix
      (by simpa only [String.length_toList] using h)

lemma dotBefore?_succ (cs : List Char) (k : Nat) :
    dotBefore? cs (k + 1) = if cs[k]? = some '.' then some k else dotBefore? cs k := by
  rw [dotBefore?, List.range_succ, List.reverse_append, List.reverse_singleton,
    List.singleton_append, List.find?_cons]
  split <;> simp_all [dotBefore?]

lemma dotBefore?_eq_some (h : dotBefore? cs limit = some i) : i < limit ∧ cs[i]? = some '.' := by
  induction limit with
  | zero => cases h
  | succ k ih =>
    rw [dotBefore?_succ] at h
    split at h
    · next hk =>
      cases h
      exact ⟨Nat.lt_succ_self _, hk⟩
    · obtain ⟨hi, hdot⟩ := ih h
      exact ⟨Nat.lt_succ_of_lt hi, hdot⟩

lemma dottedAbove_succ (cs : List Char) (fuel limit : Nat) :
    dottedAbove cs (fuel + 1) limit = [] ∨ ∃ i, i + 1 < limit ∧ cs[i + 1]? = some '.' ∧
      dottedAbove cs (fuel + 1) limit =
        String.ofList (cs.take (i + 1)) :: dottedAbove cs fuel i := by
  rw [dottedAbove]
  split
  · next i hi =>
    obtain ⟨hlt, hdot⟩ := dotBefore?_eq_some hi
    exact .inr ⟨i, hlt, hdot, rfl⟩
  · exact .inl rfl

lemma mem_dottedAbove (h : m ∈ dottedAbove cs fuel limit) :
    ∃ i, 0 < i ∧ i < limit ∧ cs[i]? = some '.' ∧ m = String.ofList (cs.take i) := by
  induction fuel generalizing limit with
  | zero => cases h
  | succ fuel ih =>
    rcases dottedAbove_succ cs fuel limit with hnil | ⟨i, hi, hdot, hcons⟩
    · rw [hnil] at h
      cases h
    · rw [hcons] at h
      rcases List.mem_cons.mp h with rfl | h
      · exact ⟨i + 1, Nat.succ_pos i, hi, hdot, rfl⟩
      · obtain ⟨j, hj, hlt, hdot, rfl⟩ := ih h
        exact ⟨j, hj, by omega, hdot, rfl⟩

lemma pairwise_dottedAbove (cs : List Char) (fuel limit : Nat) :
    (dottedAbove cs fuel limit).Pairwise fun a b => b.length < a.length := by
  induction fuel generalizing limit with
  | zero => exact .nil
  | succ fuel ih =>
    rcases dottedAbove_succ cs fuel limit with hnil | ⟨i, -, hdot, hcons⟩
    · rw [hnil]
      exact .nil
    · rw [hcons]
      refine .cons (fun b hb => ?_) (ih i)
      obtain ⟨j, -, hj, -, rfl⟩ := mem_dottedAbove hb
      obtain ⟨hlt, -⟩ := List.getElem?_eq_some_iff.mp hdot
      simp only [String.length_ofList, List.length_take]
      omega

/-- What logging takes for the names above a name is above it. -/
lemma isAbove_of_mem (h : m ∈ namesAbove n) : IsAbove m n := by
  obtain ⟨i, hpos, -, hdot, rfl⟩ := mem_dottedAbove h
  obtain ⟨hlt, hdot⟩ := List.getElem?_eq_some_iff.mp hdot
  constructor
  · intro he
    have := congrArg String.length he
    simp only [String.length_ofList, List.length_take, String.length_empty] at this
    omega
  · refine ⟨n.toList.drop (i + 1), ?_⟩
    rw [String.toList_ofList, ← hdot, ← List.drop_eq_getElem_cons hlt, List.take_append_drop]

lemma pairwise_namesAbove (n : String) :
    (namesAbove n).Pairwise fun a b => b.length < a.length := pairwise_dottedAbove _ _ _

example : namesAbove "a.b.c" = ["a.b", "a"] ∧ namesAbove "a..c" = ["a."] := by decide

/-- A name above another that begins a word without dots is below no name. -/
lemma length_le_of_isPrefix {w : List Char} (hw : '.' ∉ w) (ha : IsAbove a n) (hb : IsAbove b n)
    (hp : b.toList <+: w) : b.length ≤ a.length := by
  by_contra hlt
  obtain ⟨-, rest, hrest⟩ := hb.of_length_lt ha (by omega)
  refine hw (hp.subset ?_)
  rw [hrest]
  simp

end ActionRouting.Log.Registry
