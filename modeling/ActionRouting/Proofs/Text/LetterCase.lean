import Mathlib.Tactic.Lemma
import ActionRouting.Text.LetterCase

/-! A letter is among those that a caseless comparison takes for it. The end of a line, the dot and
the slash have no case: nothing else is taken for them. -/
namespace ActionRouting.Text

lemma isUpper_iff {c : Char} : c.isUpper ↔ 65 ≤ c.toNat ∧ c.toNat ≤ 90 := by
  change decide (c.val ≥ 65 ∧ c.val ≤ 90) = true ↔ _
  rw [decide_eq_true_iff, ge_iff_le, UInt32.le_iff_toNat_le, UInt32.le_iff_toNat_le]
  rfl

lemma isLower_iff {c : Char} : c.isLower ↔ 97 ≤ c.toNat ∧ c.toNat ≤ 122 := by
  change (decide (c.val ≥ 97) && decide (c.val ≤ 122)) = true ↔ _
  rw [Bool.and_eq_true, decide_eq_true_iff, decide_eq_true_iff, ge_iff_le, UInt32.le_iff_toNat_le,
    UInt32.le_iff_toNat_le]
  rfl

lemma isDigit_iff {c : Char} : c.isDigit ↔ 48 ≤ c.toNat ∧ c.toNat ≤ 57 := by
  change (decide (c.val ≥ 48) && decide (c.val ≤ 57)) = true ↔ _
  rw [Bool.and_eq_true, decide_eq_true_iff, decide_eq_true_iff, ge_iff_le, UInt32.le_iff_toNat_le,
    UInt32.le_iff_toNat_le]
  rfl

lemma toLower_of_not_isUpper {c : Char} (h : ¬ c.isUpper) : c.toLower = c := by
  rw [isUpper_iff] at h
  refine dif_neg ?_
  rw [ge_iff_le, UInt32.le_iff_toNat_le, UInt32.le_iff_toNat_le]
  exact h

/-- What does not see the case of the letters of ASCII does not see lower case. -/
lemma apply_toLower {α : Type} {f : Char → α}
    (h : ∀ n : Fin 128, f (Char.ofNat n).toLower = f (Char.ofNat n)) (c : Char) :
    f c.toLower = f c := by
  by_cases hc : c.isUpper
  · have hlt : c.toNat < 128 := by
      have := isUpper_iff.mp hc
      omega
    have := h ⟨c.toNat, hlt⟩
    rwa [Char.ofNat_toNat] at this
  · rw [toLower_of_not_isUpper hc]

lemma caseVariants_toLower (c : Char) : caseVariants c.toLower = caseVariants c :=
  apply_toLower (by decide +kernel) c

lemma lowerChar_toLower (c : Char) : lowerChar c.toLower = lowerChar c :=
  apply_toLower (by decide +kernel) c

/-- Letters and digits are in ASCII. -/
lemma lt_of_isAlphanum {c : Char} (h : c.isAlphanum) : c.toNat < 128 := by
  change (c.isUpper || c.isLower || c.isDigit) = true at h
  rw [Bool.or_eq_true, Bool.or_eq_true, isUpper_iff, isLower_iff, isDigit_iff] at h
  omega

/-- All letters of the runs are outside ASCII, and so are those that stand for them, but for three
single letters. -/
lemma folding_outside : ∀ r ∈ CaseRun.folding, 128 ≤ r.first ∧ (128 ≤ r.target ∨
    r.count = 1 ∧ r.target ∈ [105, 107, 115] ∧ r.first ∈ foldClass r.target) := by
  decide +kernel

lemma foldClass_outside {k : Nat} (hk : 128 ≤ k) :
    foldClass k = k :: CaseRun.folding.filterMap (·.preimage? k) := by
  rw [foldClass, if_neg (by omega), if_neg (by omega), if_neg (by omega), if_neg (by omega)]

lemma foldKey_outside {c : Char} (hc : 128 ≤ c.toNat) :
    foldKey c = (CaseRun.lookup CaseRun.folding c.toNat).getD c.toNat := by
  rw [foldKey, if_neg (by simpa [isAscii] using hc)]

/-- What stands for a letter outside ASCII: the letter itself, another one outside ASCII, or one of
three letters. -/
lemma foldKey_cases {c : Char} (hc : 128 ≤ c.toNat) : c.toNat ∈ foldClass (foldKey c) ∧
    (128 ≤ foldKey c ∨ foldKey c ∈ [105, 107, 115]) := by
  rw [foldKey_outside hc]
  cases hl : CaseRun.lookup CaseRun.folding c.toNat with
  | none =>
    rw [Option.getD_none, foldClass_outside hc]
    exact ⟨List.mem_cons_self, .inl hc⟩
  | some m =>
    rw [Option.getD_some]
    obtain ⟨r, hr, hi⟩ := List.exists_of_findSome?_eq_some hl
    obtain ⟨-, hout | ⟨hone, hin, hmem⟩⟩ := folding_outside r hr
    · have hm : 128 ≤ m := by
        unfold CaseRun.image? at hi
        split at hi
        · obtain rfl := Option.some.inj hi
          omega
        · cases hi
      rw [foldClass_outside hm]
      refine ⟨List.mem_cons_of_mem _ (List.mem_filterMap.mpr ⟨r, hr, ?_⟩), .inl hm⟩
      exact CaseRun.preimage?_image? hi
    · have hfirst : c.toNat = r.first ∧ m = r.target := by
        unfold CaseRun.image? at hi
        split at hi
        · next h =>
          obtain ⟨hle, hlt, hmod⟩ := h
          obtain rfl := Option.some.inj hi
          rw [hone, Nat.mul_one] at hlt
          have := Nat.mod_eq_of_lt (show c.toNat - r.first < r.stride by omega)
          omega
        · cases hi
      rw [hfirst.1, hfirst.2]
      exact ⟨hmem, .inr hin⟩

lemma mem_caseVariants_ascii : ∀ n : Fin 128, n.val ∈ caseVariants (Char.ofNat n) := by
  decide +kernel

theorem mem_caseVariants (c : Char) : c.toNat ∈ caseVariants c := by
  by_cases hc : c.toNat < 128
  · have := mem_caseVariants_ascii ⟨c.toNat, hc⟩
    rwa [Char.ofNat_toNat] at this
  · exact (foldKey_cases (by omega)).1

lemma eq_of_mem_caseVariants_ascii : ∀ n ∈ [10, 35, 46, 47], ∀ d : Fin 128,
    n ∈ caseVariants (Char.ofNat d) → d.val = n := by
  decide +kernel

lemma not_mem_foldClass :
    ∀ n ∈ [10, 35, 46, 47], ∀ k ∈ [105, 107, 115], n ∉ foldClass k := by decide

/-- Nothing is taken for the end of a line, a hash, a dot or a slash but these themselves. -/
theorem eq_of_mem_caseVariants {n : Nat} (hn : n ∈ [10, 35, 46, 47]) {d : Char}
    (h : n ∈ caseVariants d) : d.toNat = n := by
  have hlt : n < 128 := by
    have : ∀ n ∈ [10, 35, 46, 47], n < 128 := by decide
    exact this n hn
  by_cases hd : d.toNat < 128
  · have := eq_of_mem_caseVariants_ascii n hn ⟨d.toNat, hd⟩
    rw [Char.ofNat_toNat] at this
    exact this h
  · exfalso
    rcases (foldKey_cases (show 128 ≤ d.toNat by omega)).2 with hk | hk
    · rw [caseVariants, foldClass_outside hk] at h
      rcases List.mem_cons.mp h with rfl | h
      · omega
      · obtain ⟨r, hr, hp⟩ := List.mem_filterMap.mp h
        have := (folding_outside r hr).1
        unfold CaseRun.preimage? at hp
        split at hp
        · obtain rfl := Option.some.inj hp
          omega
        · cases hp
    · exact not_mem_foldClass n hn _ hk h

end ActionRouting.Text
