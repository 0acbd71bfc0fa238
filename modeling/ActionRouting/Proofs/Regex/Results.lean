import Mathlib.Tactic.Lemma
import ActionRouting.Regex.FirstMatch

/-! The ways to match the parts that compiled paths consist of: sets, optional parts, lazy captures
and choices. -/
namespace ActionRouting.Regex

namespace Cursor

/-- The position after a text that follows. -/
def past (s : Cursor) (u : List Char) : Cursor :=
  ⟨s.pos + u.length, u.reverse ++ s.before, s.after.drop u.length, s.groups⟩

@[simp] lemma past_past (s : Cursor) (u v : List Char) : (s.past u).past v = s.past (u ++ v) := by
  simp [past, Nat.add_assoc]

lemma past_after {s : Cursor} {u rest : List Char} (h : s.after = u ++ rest) :
    (s.past u).after = rest := by
  simp [past, h]

end Cursor

namespace Node

lemma results_ofParts_cons (n : Node) (ns : List Node) (s : Cursor) :
    (ofParts (n :: ns)).results s = (n.results s).flatMap (ofParts ns).results := rfl

lemma results_ofParts_append (ms ns : List Node) (s : Cursor) :
    (ofParts (ms ++ ns)).results s = ((ofParts ms).results s).flatMap (ofParts ns).results := by
  induction ms generalizing s with
  | nil => simp [ofParts, results]
  | cons m ms ih =>
    rw [List.cons_append, results_ofParts_cons, results_ofParts_cons, List.flatMap_assoc]
    exact congrArg (List.flatMap · (m.results s)) (funext ih)

lemma results_chars_of_mem {set : CharSet} {s : Cursor} {c : Char} {rest : List Char}
    (h : s.after = c :: rest) (hc : set.contains c) : (chars set).results s = [s.past [c]] := by
  rw [results_chars set s c rest h, if_pos hc]
  simp [Cursor.past, h]

lemma mem_results_chars {set : CharSet} {s s' : Cursor} (h : s' ∈ (chars set).results s) :
    ∃ c, set.contains c ∧ s.after = c :: s'.after ∧ s' = s.past [c] := by
  cases ha : s.after with
  | nil =>
    rw [results_chars_nil set s ha] at h
    cases h
  | cons c rest =>
    rw [results_chars set s c rest ha] at h
    split at h
    · next hc =>
      obtain rfl := List.mem_singleton.mp h
      exact ⟨c, hc, rfl, by simp [Cursor.past, ha]⟩
    · cases h

/-- An optional part is there, or it is not. -/
lemma results_optional (a : Node) (s : Cursor) :
    (loop true 0 (some 1) a).results s = a.results s ++ [s] := by
  have hone : loopResults a.results true (s.length + 1) 0 (some 0) (some s.pos) =
      fun s' => [s'] := by
    funext s'
    rw [loopResults]
    simp
  rw [results, Course.fuel, loopResults]
  simp [hone]

/-- Taking as few as possible of a set, each position once. -/
lemma loopResults_lazy {set : CharSet} {u rest : List Char} {s : Cursor}
    (h : s.after = u ++ rest) (hu : ∀ c ∈ u, set.contains c) {fuel : Nat} (hf : u.length < fuel)
    (last : Option Nat) (hl : ∀ p, last = some p → p < s.pos) :
    ∃ earlier later, loopResults (chars set).results false fuel 0 none last s =
        earlier ++ s.past u :: later ∧
      ∀ s' ∈ earlier, ∃ x y, u = x ++ y ∧ y ≠ [] ∧ s' = s.past x := by
  induction u generalizing s fuel last with
  | nil =>
    obtain ⟨fuel, rfl⟩ := Nat.exists_eq_succ_of_ne_zero (n := fuel) (by omega)
    exact ⟨[], _, rfl, by simp⟩
  | cons c u ih =>
    obtain ⟨fuel, rfl⟩ := Nat.exists_eq_succ_of_ne_zero (n := fuel) (by omega)
    have hnext : (s.past [c]).after = u ++ rest := by simp [Cursor.past, h]
    have hlt : u.length < fuel := by
      rw [List.length_cons] at hf
      omega
    obtain ⟨earlier, later, he, hx⟩ := ih hnext (fun d hd => hu d (List.mem_cons_of_mem _ hd)) hlt
      (some s.pos) (fun p hp => by
        obtain rfl := Option.some.inj hp
        exact Nat.lt_succ_self _)
    refine ⟨s :: earlier, later, ?_, ?_⟩
    · have hne : ¬ last = some s.pos := fun hp => Nat.lt_irrefl _ (hl _ hp)
      rw [loopResults, results_chars_of_mem h (hu c List.mem_cons_self)]
      simpa [hne] using he
    · intro s' hs
      rcases List.mem_cons.mp hs with rfl | hs
      · exact ⟨[], c :: u, rfl, by simp, rfl⟩
      · obtain ⟨x, y, rfl, hy, rfl⟩ := hx s' hs
        exact ⟨c :: x, y, rfl, hy, by rw [Cursor.past_past]; rfl⟩

/-- A lazy capture meets every shorter text before the one it is to take. -/
theorem results_lazy {set : CharSet} {u rest : List Char} {s : Cursor} (h : s.after = u ++ rest)
    (hu : ∀ c ∈ u, set.contains c) (hne : u ≠ []) :
    ∃ earlier later, (loop false 1 none (chars set)).results s = earlier ++ s.past u :: later ∧
      ∀ s' ∈ earlier, ∃ x y, u = x ++ y ∧ y ≠ [] ∧ s' = s.past x := by
  obtain ⟨c, u, rfl⟩ := List.exists_cons_of_ne_nil hne
  have hnext : (s.past [c]).after = u ++ rest := by simp [Cursor.past, h]
  have hlen : u.length < s.length + 2 := by
    simp only [Cursor.length, h, List.length_append, List.length_cons]
    omega
  obtain ⟨earlier, later, he, hx⟩ := loopResults_lazy hnext
    (fun d hd => hu d (List.mem_cons_of_mem _ hd)) hlen none (by simp)
  refine ⟨earlier, later, ?_, ?_⟩
  · have hfuel : Course.fuel 1 s = s.length + 2 + 1 := by
      rw [Course.fuel]
      omega
    rw [results, hfuel, loopResults, results_chars_of_mem h (hu c List.mem_cons_self)]
    simpa using he
  · intro s' hs
    obtain ⟨x, y, rfl, hy, rfl⟩ := hx s' hs
    exact ⟨c :: x, y, rfl, hy, by rw [Cursor.past_past]; rfl⟩

lemma mem_loopResults_lazy {set : CharSet} {fuel : Nat} {last : Option Nat} {s s' : Cursor}
    (h : s' ∈ loopResults (chars set).results false fuel 0 none last s) :
    ∃ x, (∀ c ∈ x, set.contains c) ∧ s.after = x ++ s'.after ∧ s' = s.past x := by
  induction fuel generalizing s last with
  | zero => cases h
  | succ fuel ih =>
    rw [loopResults] at h
    simp only [Bool.false_eq_true, if_false, List.mem_cons] at h
    rcases h with rfl | h
    · exact ⟨[], by simp, rfl, rfl⟩
    · split at h
      · cases h
      · obtain ⟨t, ht, hs⟩ := List.mem_flatMap.mp h
        obtain ⟨c, hc, ha, rfl⟩ := mem_results_chars ht
        obtain ⟨x, hx, he, rfl⟩ := ih hs
        refine ⟨c :: x, ?_, ?_, ?_⟩
        · simpa using ⟨hc, hx⟩
        · rw [ha, he, List.cons_append]
        · rw [Cursor.past_past]
          rfl

/-- What a lazy capture takes. -/
theorem mem_results_lazy {set : CharSet} {s s' : Cursor}
    (h : s' ∈ (loop false 1 none (chars set)).results s) :
    ∃ x, x ≠ [] ∧ (∀ c ∈ x, set.contains c) ∧ s.after = x ++ s'.after ∧ s' = s.past x := by
  have hfuel : Course.fuel 1 s = s.length + 2 + 1 := by
    rw [Course.fuel]
    omega
  rw [results, hfuel, loopResults] at h
  obtain ⟨t, ht, hs⟩ := List.mem_flatMap.mp h
  obtain ⟨c, hc, ha, rfl⟩ := mem_results_chars ht
  obtain ⟨x, hx, he, rfl⟩ := mem_loopResults_lazy hs
  refine ⟨c :: x, by simp, ?_, ?_, ?_⟩
  · simpa using ⟨hc, hx⟩
  · rw [ha, he, List.cons_append]
  · rw [Cursor.past_past]
    rfl

/-- Taking as many as possible of a set. -/
lemma loopResults_eager {set : CharSet} {u rest : List Char} {s : Cursor}
    (h : s.after = u ++ rest) (hu : ∀ c ∈ u, set.contains c)
    (hr : rest.head?.all (!set.contains ·)) {fuel : Nat} (hf : u.length < fuel)
    (last : Option Nat) (hl : ∀ p, last = some p → p < s.pos) :
    ∃ later, loopResults (chars set).results true fuel 0 none last s = s.past u :: later ∧
      ∀ s' ∈ later, ∃ x y, u = x ++ y ∧ y ≠ [] ∧ s' = s.past x := by
  induction u generalizing s fuel last with
  | nil =>
    obtain ⟨fuel, rfl⟩ := Nat.exists_eq_succ_of_ne_zero (n := fuel) (by omega)
    have hnone : (chars set).results s = [] := by
      cases rest with
      | nil => exact results_chars_nil set s h
      | cons c rest =>
        have hc : set.contains c = false := by simpa using hr
        rw [results_chars set s c rest h, if_neg (Bool.eq_false_iff.mp hc)]
    exact ⟨[], by rw [loopResults]; simp [hnone, Cursor.past], by simp⟩
  | cons c u ih =>
    obtain ⟨fuel, rfl⟩ := Nat.exists_eq_succ_of_ne_zero (n := fuel) (by omega)
    have hnext : (s.past [c]).after = u ++ rest := by simp [Cursor.past, h]
    have hlt : u.length < fuel := by
      rw [List.length_cons] at hf
      omega
    obtain ⟨later, he, hx⟩ := ih hnext (fun d hd => hu d (List.mem_cons_of_mem _ hd)) hlt
      (some s.pos) (fun p hp => by
        obtain rfl := Option.some.inj hp
        exact Nat.lt_succ_self _)
    refine ⟨later ++ [s], ?_, ?_⟩
    · have hne : ¬ last = some s.pos := fun hp => Nat.lt_irrefl _ (hl _ hp)
      rw [Cursor.past_past, List.singleton_append] at he
      rw [loopResults, results_chars_of_mem h (hu c List.mem_cons_self)]
      simp [hne, he]
    · intro s' hs
      rcases List.mem_append.mp hs with hs | hs
      · obtain ⟨x, y, rfl, hy, rfl⟩ := hx s' hs
        exact ⟨c :: x, y, rfl, hy, by rw [Cursor.past_past]; rfl⟩
      · obtain rfl := List.mem_singleton.mp hs
        exact ⟨[], c :: u, rfl, by simp, rfl⟩

/-- A greedy repetition takes the longest text of its set first. -/
theorem results_eager {set : CharSet} {u rest : List Char} {s : Cursor} (h : s.after = u ++ rest)
    (hu : ∀ c ∈ u, set.contains c) (hr : rest.head?.all (!set.contains ·)) :
    ∃ later, (loop true 0 none (chars set)).results s = s.past u :: later := by
  have hlen : u.length < Course.fuel 0 s := by
    simp only [Course.fuel, Cursor.length, h, List.length_append]
    omega
  obtain ⟨later, he, -⟩ := loopResults_eager h hu hr hlen none (by simp)
  exact ⟨later, he⟩

def merged (s : CharSet) (sets : List CharSet) : CharSet :=
  { s with members := ((s :: sets).flatMap CharSet.members).eraseDups }

lemma setOf?_eq_some {ns : List Node} {s : CharSet} (h : setOf? ns = some s) :
    ns = [chars s] := by
  unfold setOf? at h
  split at h
  · split at h
    · cases h
    · cases h
      rfl
  · cases h

lemma mapM_setOf?_eq_some {branches : List (List Node)} {sets : List CharSet}
    (h : branches.mapM setOf? = some sets) : branches = sets.map fun s => [chars s] := by
  induction branches generalizing sets with
  | nil =>
    cases h
    rfl
  | cons b branches ih =>
    rw [List.mapM_cons] at h
    cases hb : setOf? b with
    | none => simp [hb] at h
    | some s =>
      cases hs : branches.mapM setOf? with
      | none => simp [hb, hs] at h
      | some ss =>
        simp only [hb, hs, Option.pure_def, Option.bind_eq_bind, Option.bind_some,
          Option.some.injEq] at h
        subst h
        rw [List.map_cons, ← ih hs, setOf?_eq_some hb]

lemma results_ofAlternatives (b : Node) (bs : List Node) (s : Cursor) :
    ∃ others, (ofAlternatives (b :: bs)).results s = b.results s ++ others := by
  cases bs with
  | nil => exact ⟨[], (List.append_nil _).symm⟩
  | cons c bs => exact ⟨_, rfl⟩

lemma results_ofParts_singleton (n : Node) (s : Cursor) :
    (ofParts [n]).results s = n.results s := by
  simp [ofParts, results]

/-- A choice prefers its first branch. Where the branches are sets it has to be seen that the set
that stands for them takes what the first one takes. -/
lemma results_choice {first : List Node} {rest : List (List Node)} {s : Cursor}
    (hm : ∀ t ts c, first = [chars t] → rest = ts.map (fun u => [chars u]) →
      s.after.head? = some c → t.contains c → (merged t ts).contains c) :
    ∃ others, (choice (first :: rest)).results s = (ofParts first).results s ++ others := by
  unfold choice
  split
  · next t ts h =>
    have hb := mapM_setOf?_eq_some h
    rw [List.map_cons, List.cons.injEq] at hb
    obtain ⟨rfl, rfl⟩ := hb
    rw [results_ofParts_singleton]
    change ∃ others, (chars (merged t ts)).results s = _
    cases ha : s.after with
    | nil =>
      rw [results_chars_nil t s ha]
      exact ⟨_, rfl⟩
    | cons c cs =>
      by_cases hc : t.contains c
      · have hmc := hm t ts c rfl rfl (by rw [ha]; rfl) hc
        rw [results_chars_of_mem ha hc, results_chars_of_mem ha hmc]
        exact ⟨[], rfl⟩
      · rw [results_chars t s c cs ha, if_neg hc]
        exact ⟨_, rfl⟩
  · exact results_ofAlternatives _ _ _

lemma map_cons_tail {n : Node} {rest : List (List Node)} (h : ∀ ns ∈ rest, ns.head? = some n) :
    (rest.map List.tail).map (n :: ·) = rest := by
  rw [List.map_map]
  refine (List.map_congr_left fun ns hns => ?_).trans (List.map_id _)
  have := h ns hns
  cases ns with
  | nil => cases this
  | cons m ns =>
    cases this
    rfl

/-- A choice among branches of which the first has sets for its simple parts. -/
theorem results_partsOfChoice {first : List Node} {rest : List (List Node)} {s : Cursor}
    (hs : ∀ n ∈ first, n.isSimple → ∃ t, n = chars t)
    (hm : ∀ before t ts c, (∀ n ∈ before, n.isSimple) → first = before ++ [chars t] →
      rest = ts.map (fun u => before ++ [chars u]) →
      s.after[before.length]? = some c → t.contains c → (merged t ts).contains c) :
    ∃ others, (ofParts (partsOfChoice first rest)).results s =
      (ofParts first).results s ++ others := by
  induction first generalizing rest s with
  | nil =>
    rw [partsOfChoice, results_ofParts_singleton]
    exact results_choice fun t ts c ht => by cases ht
  | cons n first ih =>
    rw [partsOfChoice]
    split
    · next hn =>
      simp only [Bool.and_eq_true, List.all_eq_true, beq_iff_eq] at hn
      obtain ⟨t, rfl⟩ := hs n List.mem_cons_self hn.1
      rw [results_ofParts_cons, results_ofParts_cons]
      cases ha : s.after with
      | nil =>
        rw [results_chars_nil t s ha]
        exact ⟨[], rfl⟩
      | cons c cs =>
        by_cases hc : t.contains c
        · rw [results_chars_of_mem ha hc]
          simp only [List.flatMap_cons, List.flatMap_nil, List.append_nil]
          refine ih (fun m hmem => hs m (List.mem_cons_of_mem _ hmem)) ?_
          intro before u us d hb hf hr hd hu
          have hrest : rest = us.map fun v => (chars t :: before) ++ [chars v] :=
            calc rest = (rest.map List.tail).map (chars t :: ·) := (map_cons_tail hn.2).symm
              _ = _ := by rw [hr, List.map_map]; rfl
          refine hm (chars t :: before) u us d (List.forall_mem_cons.mpr ⟨rfl, hb⟩)
            (by rw [hf, List.cons_append]) hrest ?_ hu
          simpa [Cursor.past, ha] using hd
        · rw [results_chars t s c cs ha, if_neg hc]
          exact ⟨[], rfl⟩
    · rw [results_ofParts_singleton]
      refine results_choice fun u us c hu hr hc => ?_
      exact hm [] u us c (by simp) hu hr (by simpa [List.head?_eq_getElem?] using hc)

end Node

end ActionRouting.Regex
