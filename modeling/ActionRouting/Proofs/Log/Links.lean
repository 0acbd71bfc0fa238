import Mathlib.Data.List.Find
import Mathlib.Logic.Relation
import ActionRouting.Proofs.Log.Names

/-! How loggers are linked. At any time a logger is linked to the longest name above it that was
asked for, in whatever order the names came. The exceptions are the beginnings of the name of the
root: a logger that they are above of takes them for the root if they came later. -/
namespace ActionRouting.Log.Registry

variable {r : Registry} {order : List String} {m n a b k new : String} {l : Logger}

/-- The names of the loggers, in the order in which they came to be. -/
def names (r : Registry) : List String := r.loggers.map (·.name)

/-- A name begins that of the root, and came after the name that it is above of. -/
def isPassedOver (order : List String) (n m : String) : Bool :=
  "root".startsWith m && decide (order.idxOf n < order.idxOf m)

/-- The longest name above a name that was asked for, unless it is passed over. -/
def nearest? (order : List String) (n : String) : Option String :=
  (namesAbove n).find? fun m => order.contains m && !isPassedOver order n m

def Links (order : List String) (n m : String) : Prop := nearest? order n = some m

/-- No name has two loggers, none has the name of the root, and each is linked to the nearest above
it. -/
structure IsLinked (r : Registry) : Prop where
  root : r.root.name = "root"
  nodup : r.names.Nodup
  not_isRoot : ∀ n ∈ r.names, isRoot n = false
  above : ∀ l ∈ r.loggers, l.above = nearest? r.names l.name

/-- A logger that may be linked to. -/
def Stands (order : List String) (n m : String) : Prop :=
  m ∈ order ∧ isPassedOver order n m = false

lemma nearest?_eq_some_iff : nearest? order n = some m ↔
    m ∈ namesAbove n ∧ Stands order n m ∧
      ∀ k ∈ namesAbove n, Stands order n k → k.length ≤ m.length := by
  have hstands (k : String) : (order.contains k && !isPassedOver order n k) = true ↔
      Stands order n k := by simp [Stands]
  rw [nearest?]
  constructor
  · intro h
    obtain ⟨hp, u, v, huv, hu⟩ := List.find?_eq_some_iff_append.mp h
    refine ⟨List.mem_of_find?_eq_some h, (hstands m).mp hp, fun k hk hs => ?_⟩
    rw [huv, List.mem_append, List.mem_cons] at hk
    rcases hk with hk | rfl | hk
    · have := hu k hk
      rw [(hstands k).mpr hs] at this
      cases this
    · exact Nat.le_refl _
    · have := pairwise_namesAbove n
      rw [huv, List.pairwise_append, List.pairwise_cons] at this
      exact Nat.le_of_lt (this.2.1.1 k hk)
  · rintro ⟨hm, hs, hmax⟩
    obtain ⟨u, v, huv⟩ := List.append_of_mem hm
    refine List.find?_eq_some_iff_append.mpr ⟨(hstands m).mpr hs, u, v, huv, fun k hk => ?_⟩
    have hlt : m.length < k.length := by
      have := pairwise_namesAbove n
      rw [huv, List.pairwise_append] at this
      exact this.2.2 k hk m List.mem_cons_self
    rw [Bool.not_eq_true', ← Bool.not_eq_true, hstands]
    intro hk'
    have := hmax k (huv ▸ List.mem_append_left _ hk) hk'
    omega

lemma nearest?_eq_none_iff :
    nearest? order n = none ↔ ∀ k ∈ namesAbove n, ¬ Stands order n k := by
  simp [nearest?, Stands]

lemma nearest?_congr {order' : List String}
    (h : ∀ k ∈ namesAbove n, Stands order n k ↔ Stands order' n k) :
    nearest? order n = nearest? order' n := by
  cases hn : nearest? order' n with
  | none =>
    rw [nearest?_eq_none_iff] at hn ⊢
    exact fun k hk hs => hn k hk ((h k hk).mp hs)
  | some m =>
    rw [nearest?_eq_some_iff] at hn ⊢
    obtain ⟨hm, hs, hmax⟩ := hn
    exact ⟨hm, (h m hm).mpr hs, fun k hk hk' => hmax k hk ((h k hk).mp hk')⟩

lemma Links.isAbove (h : Links order n m) : IsAbove m n :=
  isAbove_of_mem (nearest?_eq_some_iff.mp h).1

/-- A name that comes to be leaves the standing of the others. -/
lemma stands_concat_iff (hn : n ∈ order) (hk : k ≠ new) :
    Stands (order ++ [new]) n k ↔ Stands order n k := by
  simp only [Stands, List.mem_append, List.mem_singleton, hk, or_false]
  refine and_congr_right fun hko => ?_
  rw [isPassedOver, isPassedOver, List.idxOf_append_of_mem hn, List.idxOf_append_of_mem hko]

/-- A name that comes to be is passed over by the others if it begins that of the root. -/
lemma stands_concat_self (hn : n ∈ order) (hnew : new ∉ order) :
    Stands (order ++ [new]) n new ↔ "root".startsWith new = false := by
  have hlt : (order ++ [new]).idxOf n < (order ++ [new]).idxOf new := by
    rw [List.idxOf_append_of_mem hn, List.idxOf_append_of_notMem hnew]
    exact Nat.lt_of_lt_of_le (List.idxOf_lt_length_of_mem hn) (Nat.le_add_right _ _)
  simp [Stands, isPassedOver, hlt]

/-- The newest name passes nothing over. -/
lemma stands_newest (hnew : new ∉ order) (hk : k ≠ new) :
    Stands (order ++ [new]) new k ↔ k ∈ order := by
  simp only [Stands, List.mem_append, List.mem_singleton, hk, or_false, and_iff_left_iff_imp]
  intro hko
  have hle : ¬ (order ++ [new]).idxOf new < (order ++ [new]).idxOf k := by
    rw [List.idxOf_append_of_mem hko, List.idxOf_append_of_notMem hnew]
    have := List.idxOf_lt_length_of_mem hko
    omega
  simp [isPassedOver, hle]

@[simp] lemma name_relink (name : String) (l : Logger) : (relink name l).name = l.name := by
  unfold relink
  split <;> rfl

lemma dot_not_mem_root : '.' ∉ "root".toList := by decide

/-- Where a name that comes to be does not stand, the nearest stays. -/
lemma nearest?_concat (hn : n ∈ order) (hnew : new ∉ order)
    (h : new ∈ namesAbove n → ¬ Stands (order ++ [new]) n new) :
    nearest? (order ++ [new]) n = nearest? order n := by
  refine nearest?_congr fun k hk => ?_
  by_cases he : k = new
  · subst he
    exact ⟨fun hs => absurd hs (h hk), fun hs => absurd hs.1 hnew⟩
  · exact stands_concat_iff hn he

/-- A name that comes to be is the nearest if none that stands is longer. -/
lemma links_concat_self (hn : n ∈ order) (hnew : new ∉ order) (hmem : new ∈ namesAbove n)
    (hroot : "root".startsWith new = false)
    (hmax : ∀ k ∈ namesAbove n, Stands order n k → k.length ≤ new.length) :
    Links (order ++ [new]) n new := by
  refine nearest?_eq_some_iff.mpr ⟨hmem, (stands_concat_self hn hnew).mpr hroot, fun k hk hs => ?_⟩
  by_cases he : k = new
  · exact Nat.le_of_eq (congrArg _ he)
  · exact hmax k hk ((stands_concat_iff hn he).mp hs)

/-- The nearest stays if it is longer than a name that comes to be. -/
lemma Links.concat (h : Links order n a) (hn : n ∈ order) (hnew : new ∉ order)
    (hle : new.length ≤ a.length) : Links (order ++ [new]) n a := by
  obtain ⟨hmem, hs, hmax⟩ := nearest?_eq_some_iff.mp h
  have hne : a ≠ new := fun he => hnew (he ▸ hs.1)
  refine nearest?_eq_some_iff.mpr ⟨hmem, (stands_concat_iff hn hne).mpr hs, fun k hk hk' => ?_⟩
  by_cases he : k = new
  · rwa [he]
  · exact hmax k hk ((stands_concat_iff hn he).mp hk')

/-- Relinking a logger links it to the nearest name, the new one among them. -/
lemma above_relink (hname : l.name ∈ order) (hnew : new ∉ order)
    (hl : l.above = nearest? order l.name) :
    (relink new l).above = nearest? (order ++ [new]) l.name := by
  rw [relink]
  by_cases hmem : new ∈ namesAbove l.name
  · have habove := isAbove_of_mem hmem
    cases ha : l.above with
    | none =>
      have hnone := nearest?_eq_none_iff.mp (hl ▸ ha)
      cases hroot : "root".startsWith new with
      | true =>
        have hpassed : ¬ Stands (order ++ [new]) l.name new := by
          rw [stands_concat_self hname hnew, hroot]
          decide
        rw [if_neg (by simp [hroot]), nearest?_concat hname hnew fun _ => hpassed, hl]
      | false =>
        rw [if_pos (by simp [hmem, hroot])]
        exact (links_concat_self hname hnew hmem hroot fun k hk hs => absurd hs (hnone k hk)).symm
    | some a =>
      have hlink : Links order l.name a := hl.symm.trans ha
      have hstarts := hlink.isAbove.startsWith_iff habove
      rw [Option.getD_some]
      by_cases hle : new.length ≤ a.length
      · rw [if_neg (by simp [hstarts.mpr hle]), ha]
        exact (hlink.concat hname hnew hle).symm
      · -- A name that begins that of the root has no dot, so none that is above is shorter.
        have hroot : "root".startsWith new = false := by
          rw [← Bool.not_eq_true, String.startsWith_string_iff]
          exact fun hp => hle (length_le_of_isPrefix dot_not_mem_root hlink.isAbove habove hp)
        rw [if_pos (by simp [hmem, mt hstarts.mp hle])]
        refine (links_concat_self hname hnew hmem hroot fun k hk hs => ?_).symm
        have := (nearest?_eq_some_iff.mp hlink).2.2 k hk hs
        omega
  · rw [if_neg (by simp [hmem]), hl, nearest?_concat hname hnew fun h => absurd h hmem]

/-- The logger of a name that comes to be is linked to the nearest name. -/
lemma nearest?_newest (hnew : new ∉ order) :
    nearest? (order ++ [new]) new = (namesAbove new).find? order.contains := by
  rw [nearest?]
  refine List.find?_congr fun k hk => ?_
  have hne : k ≠ new := fun he => by
    have := (isAbove_of_mem hk).length_lt
    rw [he] at this
    exact Nat.lt_irrefl _ this
  have := stands_newest hnew hne
  rw [Bool.eq_iff_iff]
  simpa [Stands] using this

lemma isSome_logger? (r : Registry) (n : String) : (r.logger? n).isSome = r.names.contains n := by
  rw [Bool.eq_iff_iff]
  simp [logger?, names, List.find?_isSome]

/-- Asking for a logger adds its name, unless it is there or is that of the root. -/
lemma names_ask (r : Registry) (n : String) :
    (r.ask n).names = if isRoot n || r.names.contains n then r.names else r.names ++ [n] := by
  rw [ask, isSome_logger?]
  split
  · rfl
  · simp [names, Function.comp_def]

/-- Asking for a logger keeps the links. -/
theorem IsLinked.ask (h : r.IsLinked) (n : String) : (r.ask n).IsLinked := by
  by_cases hn : isRoot n || r.names.contains n
  · have : r.ask n = r := by rw [Registry.ask, isSome_logger?, if_pos hn]
    rwa [this]
  · have hnames : (r.ask n).names = r.names ++ [n] := by rw [names_ask, if_neg hn]
    simp only [Bool.or_eq_true, List.contains_eq_mem, decide_eq_true_eq, not_or,
      Bool.not_eq_true] at hn
    obtain ⟨hroot, hnew⟩ := hn
    have hloggers : (r.ask n).loggers = r.loggers.map (relink n) ++
        [{ name := n, above := (namesAbove n).find? fun k => (r.logger? k).isSome }] := by
      rw [Registry.ask, isSome_logger?, if_neg (by simp [hroot, hnew])]
    refine ⟨?_, ?_, ?_, ?_⟩
    · rw [Registry.ask]
      split <;> exact h.root
    · rw [hnames, List.nodup_append]
      refine ⟨h.nodup, List.pairwise_singleton _ n, fun a ha b hb => ?_⟩
      rw [List.mem_singleton.mp hb]
      exact fun he => hnew (he ▸ ha)
    · intro m hm
      rw [hnames, List.mem_append, List.mem_singleton] at hm
      rcases hm with hm | rfl
      · exact h.not_isRoot m hm
      · exact hroot
    · intro l hl
      rw [hloggers, List.mem_append, List.mem_singleton] at hl
      rw [hnames]
      rcases hl with hl | rfl
      · obtain ⟨l₀, hl₀, rfl⟩ := List.mem_map.mp hl
        rw [name_relink]
        exact above_relink (List.mem_map_of_mem hl₀) hnew (h.above l₀ hl₀)
      · rw [nearest?_newest hnew]
        simp only [isSome_logger?]

end ActionRouting.Log.Registry
