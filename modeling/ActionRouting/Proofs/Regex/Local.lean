import ActionRouting.Proofs.Regex.Reading
import ActionRouting.Proofs.Regex.Results

/-! Expressions that look at nothing but the characters that they take. What they take of a text
does not depend on what follows it. -/
namespace ActionRouting.Regex

namespace Cursor

/-- The position in the text with more behind it. -/
def followed (s : Cursor) (r : List Char) : Cursor := { s with after := s.after ++ r }

/-- A position is reached from another by taking a text. -/
def Reaches (s e : Cursor) : Prop := ∃ w, s.after = w ++ e.after ∧ e.pos = s.pos + w.length

variable {s t e : Cursor} {r : List Char}

lemma followed_inj : s.followed r = t.followed r ↔ s = t := by
  refine ⟨fun h => ?_, fun h => h ▸ rfl⟩
  obtain ⟨pos, before, after, groups⟩ := s
  obtain ⟨pos', before', after', groups'⟩ := t
  simpa [followed] using h

lemma followed_past {u rest : List Char} (h : s.after = u ++ rest) :
    (s.past u).followed r = (s.followed r).past u := by
  simp [followed, past, h]

lemma Reaches.refl (s : Cursor) : s.Reaches s := ⟨[], rfl, rfl⟩

lemma Reaches.trans (h : s.Reaches t) (h' : t.Reaches e) : s.Reaches e := by
  obtain ⟨w, hs, ht⟩ := h
  obtain ⟨v, ht', he⟩ := h'
  refine ⟨w ++ v, by rw [hs, ht', List.append_assoc], ?_⟩
  rw [he, ht, List.length_append, Nat.add_assoc]

/-- What is not in the text of a position is not in the text of one that is reached from it. -/
lemma Reaches.not_mem {c : Char} (h : s.Reaches e) (hc : c ∉ s.after) : c ∉ e.after := by
  obtain ⟨w, hs, -⟩ := h
  rw [hs] at hc
  exact fun hm => hc (List.mem_append_right w hm)

/-- A position from which one with more behind its text is reached has more behind its own. -/
lemma Reaches.followed_eq (h : t.Reaches (e.followed r)) :
    ∃ t₀, t = Cursor.followed t₀ r := by
  obtain ⟨w, ht, -⟩ := h
  refine ⟨{ t with after := w ++ e.after }, ?_⟩
  obtain ⟨pos, before, after, groups⟩ := t
  rw [show after = w ++ (e.after ++ r) from ht, ← List.append_assoc]
  rfl

end Cursor

/-- A part leads from one position to another in some number of repetitions: `least` more at the
least and `greatest` at the most, the last of which was begun at `last` if it was not needed. -/
inductive Repeats (body : Cursor → List Cursor) :
    Nat → Option Nat → Option Nat → Cursor → Cursor → Prop
  | done {greatest last : Option Nat} {s : Cursor} : Repeats body 0 greatest last s s
  | needed {least : Nat} {greatest last : Option Nat} {s t e : Cursor} :
      t ∈ body s → Repeats body least (greatest.map (· - 1)) last t e →
      Repeats body (least + 1) greatest last s e
  | further {greatest last : Option Nat} {s t e : Cursor} :
      ¬ (greatest = some 0 ∨ last = some s.pos) → t ∈ body s →
      Repeats body 0 (greatest.map (· - 1)) (some s.pos) t e → Repeats body 0 greatest last s e

section Repeats

variable {body : Cursor → List Cursor} {eager : Bool} {fuel least : Nat}
  {greatest last : Option Nat} {s e : Cursor}

lemma Repeats.of_mem (h : e ∈ Node.loopResults body eager fuel least greatest last s) :
    Repeats body least greatest last s e := by
  induction fuel generalizing least greatest last s with
  | zero => cases h
  | succ fuel ih =>
    cases least with
    | succ least =>
      rw [Node.loopResults] at h
      obtain ⟨t, ht, h⟩ := List.mem_flatMap.mp h
      exact .needed ht (ih h)
    | zero =>
      have hmem : e = s ∨ e ∈ (if greatest = some 0 ∨ last = some s.pos then []
          else (body s).flatMap
            (Node.loopResults body eager fuel 0 (greatest.map (· - 1)) (some s.pos))) := by
        rw [Node.loopResults] at h
        split at h
        · exact (List.mem_append.mp h).symm.imp_left List.mem_singleton.mp
        · exact List.mem_cons.mp h
      rcases hmem with rfl | h
      · exact .done
      · split at h
        · cases h
        · next hmore =>
          obtain ⟨t, ht, h⟩ := List.mem_flatMap.mp h
          exact .further hmore ht (ih h)

/-- A step is spent on each repetition that takes something, and one on a repetition that takes
nothing, which is the last. -/
lemma Repeats.mem (hb : ∀ {s t}, t ∈ body s → s.Reaches t)
    (h : Repeats body least greatest last s e)
    (hf : least + s.after.length + (if last = some s.pos then 1 else 2) ≤ fuel) :
    e ∈ Node.loopResults body eager fuel least greatest last s := by
  induction h generalizing fuel with
  | done =>
    obtain ⟨fuel, rfl⟩ := Nat.exists_eq_succ_of_ne_zero (n := fuel) (by split at hf <;> omega)
    rw [Node.loopResults]
    cases eager <;> simp
  | @needed least greatest last s t e ht _ ih =>
    obtain ⟨fuel, rfl⟩ := Nat.exists_eq_succ_of_ne_zero (n := fuel) (by split at hf <;> omega)
    rw [Node.loopResults]
    refine List.mem_flatMap.mpr ⟨t, ht, ih ?_⟩
    obtain ⟨w, hs, hpos⟩ := hb ht
    rw [hs, List.length_append] at hf
    by_cases hw : w.length = 0
    · rw [hpos, hw, Nat.add_zero]
      split at hf
      · next hlast =>
        rw [if_pos hlast]
        omega
      · next hlast =>
        rw [if_neg hlast]
        omega
    · split <;> split at hf <;> omega
  | @further greatest last s t e hmore ht _ ih =>
    rw [if_neg fun h => hmore (.inr h)] at hf
    obtain ⟨fuel, rfl⟩ := Nat.exists_eq_succ_of_ne_zero (n := fuel) (by omega)
    have hnext : e ∈ (body s).flatMap
        (Node.loopResults body eager fuel 0 (greatest.map (· - 1)) (some s.pos)) := by
      refine List.mem_flatMap.mpr ⟨t, ht, ih ?_⟩
      obtain ⟨w, hs, hpos⟩ := hb ht
      rw [hs, List.length_append] at hf
      by_cases hw : w.length = 0
      · rw [hpos, hw, Nat.add_zero, if_pos rfl]
        omega
      · split <;> omega
    rw [Node.loopResults, if_neg hmore]
    cases eager with
    | true => exact List.mem_append_left _ hnext
    | false => exact List.mem_cons_of_mem _ hnext

/-- A repetition keeps to a relation that its part keeps to. -/
lemma Repeats.rel {R : Cursor → Cursor → Prop} (hrefl : ∀ s, R s s)
    (htrans : ∀ {s t e}, R s t → R t e → R s e) (hb : ∀ {s t}, t ∈ body s → R s t)
    (h : Repeats body least greatest last s e) : R s e := by
  induction h with
  | done => exact hrefl _
  | needed ht _ ih => exact htrans (hb ht) ih
  | further _ ht _ ih => exact htrans (hb ht) ih

variable {r : List Char}

lemma Repeats.followed (hr : ∀ {s t}, t ∈ body s → t.followed r ∈ body (s.followed r))
    (h : Repeats body least greatest last s e) :
    Repeats body least greatest last (s.followed r) (e.followed r) := by
  induction h with
  | done => exact .done
  | needed ht _ ih => exact .needed (hr ht) ih
  | further hmore ht _ ih => exact .further hmore (hr ht) ih

lemma Repeats.of_followed (hb : ∀ {s t}, t ∈ body s → s.Reaches t)
    (hr : ∀ {s t}, t.followed r ∈ body (s.followed r) → t ∈ body s)
    (h : Repeats body least greatest last (s.followed r) (e.followed r)) :
    Repeats body least greatest last s e := by
  generalize hs : s.followed r = s', he : e.followed r = e' at h
  induction h generalizing s with
  | done =>
    obtain rfl := Cursor.followed_inj.mp (hs.trans he.symm)
    exact .done
  | needed ht h ih =>
    subst hs he
    obtain ⟨t, rfl⟩ := (h.rel .refl .trans hb).followed_eq
    exact .needed (hr ht) (ih rfl rfl)
  | further hmore ht h ih =>
    subst hs he
    obtain ⟨t, rfl⟩ := (h.rel .refl .trans hb).followed_eq
    exact .further hmore (hr ht) (ih rfl rfl)

end Repeats

namespace Node

/-- The expression looks at nothing but the characters that it takes. -/
def isLocal : Node → Bool
  | .empty | .chars _ => true
  | .seq a b | .alt a b => a.isLocal && b.isLocal
  | .group _ a | .loop _ _ _ a => a.isLocal
  | _ => false

/-- The expression looks at nothing but the characters that it takes, and treats case in one way. -/
def isUniform (casing : Casing) : Node → Bool
  | .empty => true
  | .chars s => s.casing == casing
  | .seq a b | .alt a b => a.isUniform casing && b.isUniform casing
  | .group _ a | .loop _ _ _ a => a.isUniform casing
  | _ => false

lemma isUniform_ofParts (casing : Casing) (ns : List Node) :
    (ofParts ns).isUniform casing = ns.all (isUniform casing) :=
  ofParts_eq_all rfl (fun _ _ => rfl) ns

lemma isLocal_of_isUniform {casing : Casing} {n : Node} (h : n.isUniform casing) : n.isLocal := by
  induction n with
  | empty | chars => rfl
  | seq a b iha ihb | alt a b iha ihb =>
    obtain ⟨ha, hb⟩ := Bool.and_eq_true_iff.mp h
    exact Bool.and_eq_true_iff.mpr ⟨iha ha, ihb hb⟩
  | group index a ih | loop eager lo hi a ih => exact ih h
  | _ => cases h

lemma isBasic_of_isLocal {n : Node} (h : n.isLocal) : n.isBasic := by
  induction n with
  | empty | chars => rfl
  | seq a b iha ihb | alt a b iha ihb =>
    obtain ⟨ha, hb⟩ := Bool.and_eq_true_iff.mp h
    exact Bool.and_eq_true_iff.mpr ⟨iha ha, ihb hb⟩
  | group index a ih | loop eager lo hi a ih => exact ih h
  | _ => cases h

variable {n : Node} {s t e : Cursor} {r : List Char}

/-- Ways to match keep to a relation between positions that each step keeps to: taking a character,
and entering and leaving a capture group. -/
theorem rel_of_mem_results {R : Cursor → Cursor → Prop} (hrefl : ∀ s, R s s)
    (htrans : ∀ {s t e}, R s t → R t e → R s e)
    (hchar : ∀ {s : Cursor} {c : Char} {rest : List Char}, s.after = c :: rest → R s (s.past [c]))
    (hgroup : ∀ {s t : Cursor} (index : Nat), R (s.enter index) t → R s (t.leave index))
    (hn : n.isLocal) (h : e ∈ n.results s) : R s e := by
  induction n generalizing s e with
  | empty =>
    obtain rfl := List.mem_singleton.mp h
    exact hrefl _
  | chars set =>
    obtain ⟨c, -, ha, rfl⟩ := mem_results_chars h
    exact hchar ha
  | seq a b iha ihb =>
    obtain ⟨ha, hb⟩ := Bool.and_eq_true_iff.mp hn
    obtain ⟨t, ht, he⟩ := List.mem_flatMap.mp h
    exact htrans (iha ha ht) (ihb hb he)
  | alt a b iha ihb =>
    obtain ⟨ha, hb⟩ := Bool.and_eq_true_iff.mp hn
    exact (List.mem_append.mp h).elim (iha ha) (ihb hb)
  | group index a ih =>
    obtain ⟨t, ht, rfl⟩ := List.mem_map.mp h
    exact hgroup index (ih hn ht)
  | loop eager lo hi a ih => exact (Repeats.of_mem h).rel hrefl htrans (ih hn)
  | _ => cases hn

/-- A way to match takes a text. -/
theorem reaches_of_mem_results (hn : n.isLocal) (h : e ∈ n.results s) : s.Reaches e :=
  rel_of_mem_results .refl .trans
    (fun {s} {c} {rest} ha => ⟨[c], by rw [ha, Cursor.past_after (u := [c]) ha]; rfl, rfl⟩)
    (fun _ h => h) hn h

/-- The ways to repeat a part that looks at nothing else. -/
lemma mem_results_loop {eager : Bool} {lo : Nat} {hi : Option Nat} (hn : n.isLocal) :
    e ∈ (loop eager lo hi n).results s ↔ Repeats n.results lo hi none s e := by
  refine ⟨.of_mem, fun h => h.mem (reaches_of_mem_results hn) ?_⟩
  rw [if_neg (by simp), Course.fuel, Cursor.length]
  omega

/-- What an expression takes does not depend on what follows. -/
theorem mem_results_followed (hn : n.isLocal) :
    e.followed r ∈ n.results (s.followed r) ↔ e ∈ n.results s := by
  induction n generalizing s e with
  | empty => rw [results, results, List.mem_singleton, List.mem_singleton, Cursor.followed_inj]
  | chars set =>
    constructor
    · intro h
      obtain ⟨c, hc, ha, he⟩ := mem_results_chars h
      have ha : s.after ++ r = (c :: e.after) ++ r := ha
      have hs : s.after = c :: e.after := List.append_cancel_right ha
      rw [← Cursor.followed_past (u := [c]) hs, Cursor.followed_inj] at he
      rw [results_chars_of_mem hs hc, he]
      exact List.mem_singleton_self _
    · intro h
      obtain ⟨c, hc, hs, rfl⟩ := mem_results_chars h
      have ha : (s.followed r).after = c :: ((s.past [c]).after ++ r) := congrArg (· ++ r) hs
      rw [results_chars_of_mem ha hc, Cursor.followed_past (u := [c]) hs]
      exact List.mem_singleton_self _
  | seq a b iha ihb =>
    obtain ⟨ha, hb⟩ := Bool.and_eq_true_iff.mp hn
    rw [results, results, List.mem_flatMap, List.mem_flatMap]
    constructor
    · rintro ⟨t, ht, he⟩
      obtain ⟨t, rfl⟩ := (reaches_of_mem_results hb he).followed_eq
      exact ⟨t, (iha ha).mp ht, (ihb hb).mp he⟩
    · rintro ⟨t, ht, he⟩
      exact ⟨t.followed r, (iha ha).mpr ht, (ihb hb).mpr he⟩
  | alt a b iha ihb =>
    obtain ⟨ha, hb⟩ := Bool.and_eq_true_iff.mp hn
    rw [results, results, List.mem_append, List.mem_append, iha ha, ihb hb]
  | group index a ih =>
    rw [results, results, List.mem_map, List.mem_map]
    constructor
    · rintro ⟨t, ht, he⟩
      obtain ⟨t, rfl⟩ : ∃ t₀, t = Cursor.followed t₀ r := by
        refine ⟨{ t with after := e.after }, ?_⟩
        have ha : t.after = e.after ++ r := congrArg Cursor.after he
        rw [Cursor.followed, ← ha]
      exact ⟨t, (ih hn).mp ht, Cursor.followed_inj.mp he⟩
    · rintro ⟨t, ht, rfl⟩
      exact ⟨t.followed r, (ih (s := s.enter index) hn).mpr ht, rfl⟩
  | loop eager lo hi a ih =>
    have hn : a.isLocal := hn
    rw [mem_results_loop hn, mem_results_loop hn]
    exact ⟨.of_followed (reaches_of_mem_results hn) (ih hn).mp, .followed (ih hn).mpr⟩
  | _ => cases hn

end Node

end ActionRouting.Regex
