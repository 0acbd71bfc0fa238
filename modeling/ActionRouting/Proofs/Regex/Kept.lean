import Mathlib.Tactic.Lemma
import ActionRouting.Regex.Matcher

/-! What matching leaves alone. An expression whose capture groups have numbers above some others
moves in the text and changes its own groups, but keeps the text and the marks of those others.
Trials keep them too, whatever they undo, and come to an end only where their goal does. -/
namespace ActionRouting.Regex

/-- The capture groups of an expression have numbers above `lo`, and no part of it looks around or
asks about a group. -/
def Node.isAbove (lo : Nat) : Node → Bool
  | .empty | .chars _ | .anchor _ | .again _ _ => true
  | .seq a b | .alt a b => a.isAbove lo && b.isAbove lo
  | .group index a => decide (lo < index) && a.isAbove lo
  | .loop _ _ _ a | .possessive _ _ _ a => a.isAbove lo
  | .look _ _ _ | .atomic _ | .ifGroup _ _ _ => false

/-- The capture groups of an expression are none of the first `lo`. -/
def Node.spares (lo : Nat) : Node → Bool
  | .empty | .chars _ | .anchor _ | .again _ _ => true
  | .seq a b | .alt a b | .ifGroup _ a b => a.spares lo && b.spares lo
  | .group index a => decide (lo ≤ index - 1) && a.spares lo
  | .loop _ _ _ a | .possessive _ _ _ a | .look _ _ a | .atomic a => a.spares lo

lemma Node.spares_of_isAbove {n : Node} {lo : Nat} (h : n.isAbove lo) : n.spares lo := by
  induction n with
  | empty | chars | anchor | again => rfl
  | seq a b iha ihb | alt a b iha ihb =>
    obtain ⟨ha, hb⟩ := Bool.and_eq_true_iff.mp h
    exact Bool.and_eq_true_iff.mpr ⟨iha ha, ihb hb⟩
  | group index a ih =>
    obtain ⟨hi, ha⟩ := Bool.and_eq_true_iff.mp h
    exact Bool.and_eq_true_iff.mpr
      ⟨decide_eq_true (Nat.le_sub_one_of_lt (of_decide_eq_true hi)), ih ha⟩
  | loop eager lo hi a ih | possessive repeated lo hi a ih => exact ih h
  | look | atomic | ifGroup => cases h

/-- Where no groups are to be kept, every expression keeps them. -/
lemma Node.spares_zero (n : Node) : n.spares 0 := by
  induction n <;> simp_all [Node.spares]

/-- The marks of all groups, the first of which are known. -/
structure Keeps (count : Nat) (marks groups : List Mark) : Prop where
  length_eq : groups.length = count
  begins : marks <+: groups

/-- A position in a known text, with the marks of all groups, the first of which are known. -/
structure Cursor.IsOn (path : List Char) (count : Nat) (marks : List Mark) (s : Cursor) :
    Prop where
  text_eq : s.before.reverse ++ s.after = path
  pos_eq : s.pos = s.before.length
  keeps : Keeps count marks s.groups

variable {path : List Char} {count : Nat} {marks groups : List Mark}

namespace Keeps

lemma set (h : Keeps count marks groups) {i : Nat} (hi : marks.length ≤ i) (m : Mark) :
    Keeps count marks (groups.set i m) where
  length_eq := by rw [List.length_set, h.length_eq]
  begins := by
    obtain ⟨rest, rfl⟩ := h.begins
    rw [List.set_append_right _ _ hi]
    exact List.prefix_append _ _

end Keeps

/-- The ends that are known are counted: a count over groups from number `k` on does not go down,
and it goes beyond each known end. -/
lemma lt_foldl_known {f : Nat → Mark × Nat → Nat} (hf : ∀ known m i, f known (m, i) =
      if m.stop.isSome then 2 * i + 2 else if m.start.isSome then 2 * i + 1 else known)
    (groups : List Mark) (k known : Nat) (hk : known ≤ 2 * k) :
    known ≤ (groups.zipIdx k).foldl f known ∧ ∀ m i, (m, i) ∈ groups.zipIdx k →
      (m.start.isSome → 2 * i < (groups.zipIdx k).foldl f known) ∧
        (m.stop.isSome → 2 * i + 1 < (groups.zipIdx k).foldl f known) := by
  induction groups generalizing k known with
  | nil => simp
  | cons m groups ih =>
    have hstep := hf known m k
    have hbound : known ≤ f known (m, k) ∧ f known (m, k) ≤ 2 * (k + 1) ∧
        (m.start.isSome → 2 * k < f known (m, k)) ∧
        (m.stop.isSome → 2 * k + 1 < f known (m, k)) := by
      rw [hstep]
      cases m.stop.isSome <;> cases m.start.isSome <;> simp <;> omega
    obtain ⟨hle, hall⟩ := ih (k + 1) (f known (m, k)) hbound.2.1
    rw [List.zipIdx_cons, List.foldl_cons]
    refine ⟨Nat.le_trans hbound.1 hle, fun m' i hmem => ?_⟩
    rcases List.mem_cons.mp hmem with he | hmem
    · cases he
      exact ⟨fun h => Nat.lt_of_lt_of_le (hbound.2.2.1 h) hle,
        fun h => Nat.lt_of_lt_of_le (hbound.2.2.2 h) hle⟩
    · exact hall m' i hmem

lemma lt_knownEnds {m : Mark} {i : Nat} (h : (m, i) ∈ groups.zipIdx) :
    (m.start.isSome → 2 * i < knownEnds groups) ∧
      (m.stop.isSome → 2 * i + 1 < knownEnds groups) := by
  unfold knownEnds
  exact (lt_foldl_known (fun _ _ _ => rfl) groups 0 0 (Nat.le_refl 0)).2 m i h

/-- What is forgotten lies beyond the ends that are known. -/
lemma Keeps.forget {known : List Mark} (hk : Keeps count marks known)
    (h : Keeps count marks groups) : Keeps count marks (forgetEnds (knownEnds known) groups) := by
  obtain ⟨others, rfl⟩ := hk.begins
  obtain ⟨rest, rfl⟩ := h.begins
  refine ⟨?_, ?_⟩
  · rw [forgetEnds, List.length_map, List.length_zipIdx, h.length_eq]
  · have hmarks : forgetEnds (knownEnds (marks ++ others)) marks = marks := by
      refine (List.map_congr_left fun p hp => ?_).trans (List.zipIdx_map_fst 0 marks)
      obtain ⟨m, i⟩ := p
      have hmem : (m, i) ∈ (marks ++ others).zipIdx := by
        rw [List.zipIdx_append]
        exact List.mem_append_left _ hp
      obtain ⟨hstart, hstop⟩ := lt_knownEnds hmem
      obtain ⟨start, stop⟩ := m
      cases start <;> cases stop <;> simp_all
    rw [forgetEnds, List.zipIdx_append, List.map_append]
    exact ⟨_, congrArg (· ++ _) hmarks.symm⟩

/-! ### Positions -/

namespace Cursor.IsOn

variable {s s' : Cursor}

lemma withGroups {marks' : List Mark} (h : s.IsOn path count marks)
    (hg : Keeps count marks' groups) : IsOn path count marks' { s with groups } :=
  ⟨h.text_eq, h.pos_eq, hg⟩

lemma enter (h : s.IsOn path count marks) {index : Nat} (hi : marks.length ≤ index - 1) :
    (s.enter index).IsOn path count marks :=
  h.withGroups (h.keeps.set hi _)

lemma leave (h : s.IsOn path count marks) {index : Nat} (hi : marks.length ≤ index - 1) :
    (s.leave index).IsOn path count marks :=
  h.withGroups (h.keeps.set hi _)

lemma step {c : Char} {rest : List Char} (h : s.IsOn path count marks) (ha : s.after = c :: rest) :
    IsOn path count marks
      { s with pos := s.pos + 1, before := c :: s.before, after := rest } where
  text_eq := by rw [← h.text_eq, ha, List.reverse_cons, List.append_assoc, List.singleton_append]
  pos_eq := by rw [h.pos_eq, List.length_cons]
  keeps := h.keeps

lemma next? {c : Char} (h : s.IsOn path count marks) (hn : s.next? = some (c, s')) :
    s'.IsOn path count marks := by
  unfold Cursor.next? at hn
  split at hn
  · cases hn
  · next ha =>
    cases hn
    exact h.step ha

lemma back? {n : Nat} (h : s.IsOn path count marks) (hb : s.back? n = some s') :
    s'.IsOn path count marks := by
  induction n generalizing s with
  | zero =>
    cases hb
    exact h
  | succ n ih =>
    unfold Cursor.back? at hb
    split at hb
    · cases hb
    · next c rest hc =>
      have hlast : IsOn path count marks
          { s with pos := s.pos - 1, before := rest, after := c :: s.after } := by
        refine ⟨?_, ?_, h.keeps⟩
        · rw [← h.text_eq, hc, List.reverse_cons, List.append_assoc, List.singleton_append]
        · rw [h.pos_eq, hc]
          rfl
      exact ih hlast hb

lemma forward (h : s.IsOn path count marks) (n : Nat) : (s.forward n).IsOn path count marks := by
  induction n generalizing s with
  | zero => exact h
  | succ n ih =>
    unfold Cursor.forward
    split
    · next hn => exact ih (h.next? hn)
    · exact h

lemma moveTo (h : s.IsOn path count marks) (pos : Nat) : (s.moveTo pos).IsOn path count marks := by
  unfold Cursor.moveTo
  split
  · cases hb : s.back? (s.pos - pos) with
    | none => exact h
    | some s' => exact h.back? hb
  · exact h.forward _

lemma takeText {casing : Casing} {expected : List Char} (h : s.IsOn path count marks)
    (ht : Cursor.takeText casing expected s = some s') : s'.IsOn path count marks := by
  induction expected generalizing s with
  | nil =>
    cases ht
    exact h
  | cons x expected ih =>
    unfold Cursor.takeText at ht
    split at ht
    · next hn =>
      split at ht
      · exact ih (h.next? hn) ht
      · cases ht
    · cases ht

lemma charRun (set : CharSet) (greatest : Option Nat) {cs : List Char} {reached : List Cursor}
    (h : s.IsOn path count marks) (ha : s.after = cs)
    (hr : ∀ t ∈ reached, t.IsOn path count marks) :
    ∀ t ∈ Cursor.charRun set cs greatest s reached, t.IsOn path count marks := by
  induction cs generalizing s greatest reached with
  | nil => exact hr
  | cons c rest ih =>
    unfold Cursor.charRun
    split
    · exact hr
    · split
      · have hnext := h.step ha
        exact ih _ hnext rfl (List.forall_mem_cons.mpr ⟨hnext, hr⟩)
      · exact hr

end Cursor.IsOn

/-! ### Trials -/

/-- A trial came to an end of some kind, or left the marks of the first groups as they were. -/
def Trial.EndsIn (final : Cursor → Prop) (count : Nat) (marks : List Mark) : Trial → Prop
  | .ok s => final s
  | .error trace => Keeps count marks trace.groups

/-- A part whose trials keep what was known, and end as what is to match after it does. -/
def Course.IsOn (path : List Char) (count : Nat) (marks : List Mark) (part : Course) : Prop :=
  ∀ (final : Cursor → Prop) (s : Cursor) (stand : Nat) (goal : Goal), s.IsOn path count marks →
    (∀ s' stand', s'.IsOn path count marks → (goal s' stand').EndsIn final count marks) →
      (part s stand goal).EndsIn final count marks

namespace Trial.EndsIn

variable {final : Cursor → Prop} {t : Trial} {s : Cursor}

lemma fail (h : s.IsOn path count marks) (stand : Nat) :
    (Trial.fail s stand).EndsIn final count marks := h.keeps

lemma orElse {next : Trace → Trial} (h : t.EndsIn final count marks)
    (hn : ∀ trace, Keeps count marks trace.groups → (next trace).EndsIn final count marks) :
    (t.orElse next).EndsIn final count marks := by
  cases t with
  | ok s => exact h
  | error trace => exact hn trace h

lemma undone {trace : Trace} (h : s.IsOn path count marks) (ht : Keeps count marks trace.groups)
    (inLoop : Bool) : Keeps count marks (trace.undone inLoop s).groups := by
  cases inLoop with
  | true => exact h.keeps
  | false => exact h.keeps.forget ht

lemma undoing (h : t.EndsIn final count marks) (hs : s.IsOn path count marks) (inLoop : Bool) :
    (t.undoing inLoop s).EndsIn final count marks :=
  h.orElse fun _ ht => undone hs ht inLoop

lemma standingAt (h : t.EndsIn final count marks) (pos : Nat) :
    (t.standingAt pos).EndsIn final count marks :=
  h.orElse fun _ ht => ht

lemma bind {final' : Cursor → Prop} {next : Cursor → Trial} (h : t.EndsIn final count marks)
    (hn : ∀ s', final s' → (next s').EndsIn final' count marks) :
    Trial.EndsIn final' count marks (Except.bind t next) := by
  cases t with
  | ok s => exact hn s h
  | error trace => exact h

end Trial.EndsIn

namespace Course.IsOn

variable {final : Cursor → Prop} {part : Course} {goal : Goal} {s : Cursor}

lemma alone (hp : part.IsOn path count marks) (h : s.IsOn path count marks) :
    (Course.alone part s).EndsIn (Cursor.IsOn path count marks) count marks :=
  hp _ s s.pos .done h fun _ _ hs => hs

lemma tryEach (inLoop : Bool) (passes : Cursor → Bool) (h : s.IsOn path count marks)
    (hg : ∀ s' stand', s'.IsOn path count marks → (goal s' stand').EndsIn final count marks)
    {found : List Cursor} (hf : ∀ c ∈ found, c.IsOn path count marks) {trace : Trace}
    (ht : Keeps count marks trace.groups) :
    (Course.tryEach inLoop passes goal s found trace).EndsIn final count marks := by
  induction found generalizing trace with
  | nil => exact ht
  | cons c found ih =>
    obtain ⟨hc, hrest⟩ := List.forall_mem_cons.mp hf
    unfold Course.tryEach
    split
    · exact ih hrest ht
    · exact (hg _ _ (hc.withGroups ht)).orElse fun _ ht' =>
        ih hrest (Trial.EndsIn.undone h ht' inLoop)

lemma ends (set : CharSet) (lo : Nat) (hi : Option Nat) (h : s.IsOn path count marks)
    (stand : Nat) :
    ∀ c ∈ (Course.ends set lo hi s stand).1, c.IsOn path count marks := by
  unfold Course.ends
  split
  · simp
  · intro c hc
    exact h.charRun set hi rfl (by simpa using h) c (List.mem_of_mem_take hc)

lemma charLoop (inLoop eager : Bool) (next : Lead) (set : CharSet) (lo : Nat) (hi : Option Nat) :
    (Course.charLoop inLoop eager next set lo hi).IsOn path count marks := by
  intro final s stand goal h hg
  unfold Course.charLoop
  have hends := ends set lo hi h stand
  split
  next found stand' he =>
  rw [he] at hends
  split
  · exact tryEach inLoop _ h hg hends h.keeps
  · exact tryEach inLoop _ h (fun c _ hc => (hg c _ hc).standingAt _)
      (fun c hc => hends c (List.mem_reverse.mp hc)) h.keeps

lemma manyFirst (hp : part.IsOn path count marks)
    (hg : ∀ s' stand', s'.IsOn path count marks → (goal s' stand').EndsIn final count marks)
    (fuel least : Nat) (greatest last : Option Nat) (h : s.IsOn path count marks) :
    (Course.manyFirst part goal fuel least greatest last s).EndsIn final count marks := by
  induction fuel generalizing least greatest last s with
  | zero => exact .fail h _
  | succ fuel ih =>
    cases least with
    | succ least => exact (hp _ _ _ _ h fun s' _ hs => ih _ _ _ hs).standingAt _
    | zero =>
      unfold Course.manyFirst
      have henough : ((goal s s.pos).standingAt s.pos).EndsIn final count marks :=
        (hg _ _ h).standingAt _
      split
      · exact henough
      · exact (hp _ _ _ _ h fun s' _ hs => ih _ _ _ hs).orElse fun _ _ => henough

lemma fewFirst (inLoop : Bool) (hp : part.IsOn path count marks)
    (hg : ∀ s' stand', s'.IsOn path count marks → (goal s' stand').EndsIn final count marks)
    (fuel least : Nat) (greatest last : Option Nat) (h : s.IsOn path count marks) :
    (Course.fewFirst inLoop part goal fuel least greatest last s).EndsIn final count marks := by
  induction fuel generalizing least greatest last s with
  | zero => exact .fail h _
  | succ fuel ih =>
    cases least with
    | succ least => exact (hp _ _ _ _ h fun s' _ hs => ih _ _ _ hs).standingAt _
    | zero =>
      unfold Course.fewFirst
      refine (((hg _ _ h).undoing h inLoop).orElse fun trace ht => ?_).standingAt _
      split
      · exact ht
      · exact hp _ _ _ _ (h.withGroups ht) fun s' _ hs => ih _ _ _ hs

lemma atLeast (hp : part.IsOn path count marks) (n : Nat) (h : s.IsOn path count marks) :
    (Course.atLeast part n s).EndsIn (Cursor.IsOn path count marks) count marks := by
  induction n generalizing s with
  | zero => exact h
  | succ n ih => exact (hp.alone h).bind fun s' hs => ih hs

lemma further (hp : part.IsOn path count marks) (fuel : Nat) (greatest last : Option Nat)
    (h : s.IsOn path count marks) :
    (Course.further part fuel greatest last s).IsOn path count marks := by
  induction fuel generalizing greatest last s with
  | zero => exact h
  | succ fuel ih =>
    unfold Course.further
    split
    · exact h
    · have halone := hp.alone h
      split
      · next he =>
        rw [he] at halone
        exact ih _ _ halone
      · next he =>
        exact h.moveTo _

lemma possess (hp : part.IsOn path count marks) (lo : Nat) (hi : Option Nat)
    (h : s.IsOn path count marks) :
    (Course.possess part lo hi s).EndsIn (Cursor.IsOn path count marks) count marks := by
  unfold Course.possess
  have hleast := (atLeast hp lo h).standingAt s.pos
  cases he : (Course.atLeast part lo s).standingAt s.pos with
  | ok s' =>
    rw [he] at hleast
    exact further hp _ _ _ hleast
  | error trace =>
    rw [he] at hleast
    exact hleast

end Course.IsOn

/-! ### Expressions -/

/-- Where the first branch ends nowhere, the second is tried with the marks that it leaves. -/
lemma Node.isOn_course_alt {a b : Node}
    (ha : ∀ inLoop next, (a.course inLoop next).IsOn path count marks)
    (hb : ∀ inLoop next, (b.course inLoop next).IsOn path count marks) (inLoop : Bool)
    (next : Lead) : ((alt a b).course inLoop next).IsOn path count marks := by
  intro final s stand goal h hg
  rw [course]
  refine Trial.EndsIn.orElse ?_ fun trace ht => ?_
  · split
    · exact .fail h _
    · exact (ha _ _ _ _ _ _ h hg).undoing h _
  · have hs := h.withGroups ht
    dsimp only
    split
    · exact hb _ _ _ _ _ _ hs hg
    · split
      · exact ht
      · exact (hb _ _ _ _ _ _ hs hg).undoing hs _

/-- Looking around comes back to where it began, with the marks that were found. -/
lemma Node.isOn_course_look {a : Node} {inLoop : Bool}
    (ha : (a.course inLoop .other).IsOn path count marks) (back : Option Nat) (negated : Bool)
    (next : Lead) : ((look back negated a).course inLoop next).IsOn path count marks := by
  intro final s stand goal h hg
  by_cases hnever : negated = true ∧ a = .empty
  · obtain ⟨rfl, rfl⟩ := hnever
    exact .fail h _
  · rw [course]
    · split
      · split
        · exact hg _ _ h
        · exact .fail h _
      · next from_ hback =>
        have halone := ha.alone (h.back? hback)
        split
        · next he =>
          rw [he] at halone
          exact hg _ _ (h.withGroups halone.keeps)
        · next he =>
          rw [he] at halone
          exact halone.keeps
        · next he =>
          rw [he] at halone
          exact halone
        · next he =>
          rw [he] at halone
          exact hg _ _ (h.withGroups (Trial.EndsIn.undone h halone _))
    · exact fun hnegated hempty => hnever ⟨hnegated, hempty⟩

/-- A possessive repetition goes on from where it stopped. -/
lemma Node.isOn_course_possessive {a : Node}
    (ha : ∀ inLoop next, (a.course inLoop next).IsOn path count marks) (repeated : Bool) (lo : Nat)
    (hi : Option Nat) (inLoop : Bool) (next : Lead) :
    ((possessive repeated lo hi a).course inLoop next).IsOn path count marks := by
  intro final s stand goal h hg
  rw [course]
  split
  · next set _ =>
    have hends := Course.IsOn.ends set lo hi h stand
    split
    next found stand' he =>
    rw [he] at hends
    cases found with
    | nil => exact .fail h _
    | cons c found => exact hg _ _ (hends c List.mem_cons_self)
  · exact (Course.IsOn.possess (ha _ _) lo hi h).bind fun s' hs => hg _ _ hs

/-- A trial of an expression keeps the marks that its own groups spare, and ends as its goal
does. -/
theorem Node.isOn_course {n : Node} (hn : n.spares marks.length) (inLoop : Bool) (next : Lead) :
    (n.course inLoop next).IsOn path count marks := by
  induction n generalizing inLoop next with
  | empty => exact fun final s stand goal h hg => hg s stand h
  | chars set =>
    intro final s stand goal h hg
    rw [course]
    split
    · next hs =>
      split
      · exact hg _ _ (h.next? hs)
      · exact .fail h _
    · exact .fail h _
  | seq a b iha ihb =>
    obtain ⟨ha, hb⟩ := Bool.and_eq_true_iff.mp hn
    intro final s stand goal h hg
    exact iha ha _ _ final s stand _ h fun s' stand' hs => ihb hb _ _ final s' stand' goal hs hg
  | alt a b iha ihb =>
    obtain ⟨ha, hb⟩ := Bool.and_eq_true_iff.mp hn
    exact isOn_course_alt (iha ha) (ihb hb) inLoop next
  | group index a ih =>
    obtain ⟨hi, ha⟩ := Bool.and_eq_true_iff.mp hn
    intro final s stand goal h hg
    exact ih ha _ _ _ _ _ _ (h.enter (of_decide_eq_true hi)) fun s' stand' hs =>
      hg _ _ (hs.leave (of_decide_eq_true hi))
  | loop eager lo hi a ih =>
    intro final s stand goal h hg
    rw [course]
    split
    · exact Course.IsOn.charLoop _ _ _ _ _ _ final s stand goal h hg
    · have hpart := ih hn true .other
      dsimp only
      split
      · exact Course.IsOn.manyFirst hpart hg _ _ _ _ h
      · exact Course.IsOn.fewFirst _ hpart hg _ _ _ _ h
  | possessive repeated lo hi a ih =>
    exact isOn_course_possessive (ih hn) repeated lo hi inLoop next
  | anchor condition =>
    intro final s stand goal h hg
    rw [course]
    split
    · exact hg _ _ h
    · exact .fail h _
  | again index casing =>
    intro final s stand goal h hg
    rw [course]
    split
    · next ht =>
      obtain ⟨text, -, ht⟩ := Option.bind_eq_some_iff.mp ht
      exact hg _ _ (h.takeText ht)
    · exact .fail h _
  | look back negated a ih => exact isOn_course_look (ih hn inLoop .other) back negated next
  | atomic a ih =>
    intro final s stand goal h hg
    rw [course]
    exact (((ih hn _ _).alone h).standingAt _).bind fun s' hs => hg _ _ hs
  | ifGroup index yes no ihYes ihNo =>
    obtain ⟨hyes, hno⟩ := Bool.and_eq_true_iff.mp hn
    intro final s stand goal h hg
    rw [course]
    split
    · exact ihYes hyes _ _ _ _ _ _ h hg
    · exact ihNo hno _ _ _ _ _ _ h hg

/-- A repetition keeps what its part keeps. -/
lemma Node.isOn_loopResults {part : Cursor → List Cursor}
    (hp : ∀ s, s.IsOn path count marks → ∀ t ∈ part s, t.IsOn path count marks) (eager : Bool)
    (fuel least : Nat) (greatest last : Option Nat) {s : Cursor} (h : s.IsOn path count marks) :
    ∀ t ∈ loopResults part eager fuel least greatest last s, t.IsOn path count marks := by
  induction fuel generalizing least greatest last s with
  | zero => simp [loopResults]
  | succ fuel ih =>
    have hmore (least : Nat) (greatest last : Option Nat) :
        ∀ t ∈ (part s).flatMap (loopResults part eager fuel least greatest last),
          t.IsOn path count marks := by
      intro t ht
      obtain ⟨s', hs', ht⟩ := List.mem_flatMap.mp ht
      exact ih _ _ _ (hp s h s' hs') t ht
    cases least with
    | succ least => exact hmore _ _ _
    | zero =>
      intro t ht
      unfold loopResults at ht
      have hcases : t = s ∨ t ∈ (part s).flatMap
          (loopResults part eager fuel 0 (greatest.map (· - 1)) (some s.pos)) := by
        by_cases hm : greatest = some 0 ∨ last = some s.pos
        · rw [if_pos hm] at ht
          cases eager <;> exact .inl (List.mem_singleton.mp ht)
        · rw [if_neg hm] at ht
          cases eager with
          | true => exact (List.mem_append.mp ht).symm.imp_left List.mem_singleton.mp
          | false => exact List.mem_cons.mp ht
      rcases hcases with rfl | ht
      · exact h
      · exact hmore _ _ _ t ht

/-- Looking around changes only the marks, as what was found has them. -/
lemma Cursor.IsOn.looked {s : Cursor} (h : s.IsOn path count marks) (negated : Bool)
    {found : Option Cursor} (hf : ∀ s', found = some s' → s'.IsOn path count marks) :
    ∀ t ∈ (match found with
      | some s' => if negated then [] else [{ s with groups := s'.groups }]
      | none => if negated then [s] else []), t.IsOn path count marks := by
  intro t ht
  cases found with
  | some s' =>
    cases negated with
    | true => cases ht
    | false =>
      rw [List.mem_singleton.mp ht]
      exact h.withGroups (hf s' rfl).keeps
  | none =>
    cases negated with
    | true => rwa [List.mem_singleton.mp ht]
    | false => cases ht

/-- Where a possessive repetition stops, the marks that its part spares are kept. -/
lemma Node.isOn_results_possessive {a : Node} (ha : a.spares marks.length) (repeated : Bool)
    (lo : Nat) (hi : Option Nat) {s : Cursor} (h : s.IsOn path count marks) :
    ∀ t ∈ (possessive repeated lo hi a).results s, t.IsOn path count marks := by
  intro t ht
  rw [results, Option.mem_toList] at ht
  unfold possess? at ht
  split at ht
  · next set _ =>
    have hrun : ∀ t ∈ Cursor.charRun set s.after (hi.map (max lo)) s [s],
        t.IsOn path count marks := h.charRun set _ rfl (by simpa using h)
    exact hrun t (List.mem_of_mem_take (List.mem_of_mem_head? ht))
  · have hpossess := Course.IsOn.possess (isOn_course ha repeated .other) lo hi h
    cases he : Course.possess (a.course repeated .other) lo hi s with
    | ok s' =>
      rw [he] at hpossess ht
      cases ht
      exact hpossess
    | error trace =>
      rw [he] at ht
      cases ht

/-- Wherever an expression may lead, the marks that its own groups spare are kept. -/
theorem Node.isOn_results_of_spares {n : Node} (hn : n.spares marks.length) {s : Cursor}
    (h : s.IsOn path count marks) : ∀ t ∈ n.results s, t.IsOn path count marks := by
  induction n generalizing s with
  | empty =>
    intro t ht
    rwa [List.mem_singleton.mp ht]
  | chars set =>
    intro t ht
    rw [results] at ht
    split at ht
    · next hs =>
      split at ht
      · rw [List.mem_singleton.mp ht]
        exact h.next? hs
      · cases ht
    · cases ht
  | seq a b iha ihb =>
    obtain ⟨ha, hb⟩ := Bool.and_eq_true_iff.mp hn
    intro t ht
    obtain ⟨s', hs', ht⟩ := List.mem_flatMap.mp ht
    exact ihb hb (iha ha h s' hs') t ht
  | alt a b iha ihb =>
    obtain ⟨ha, hb⟩ := Bool.and_eq_true_iff.mp hn
    intro t ht
    rcases List.mem_append.mp ht with ht | ht
    · exact iha ha h t ht
    · exact ihb hb h t ht
  | group index a ih =>
    obtain ⟨hi, ha⟩ := Bool.and_eq_true_iff.mp hn
    intro t ht
    obtain ⟨s', hs', rfl⟩ := List.mem_map.mp ht
    exact (ih ha (h.enter (of_decide_eq_true hi)) s' hs').leave (of_decide_eq_true hi)
  | loop eager lo hi a ih => exact isOn_loopResults (fun s hs => ih hn hs) eager _ lo hi none h
  | possessive repeated lo hi a => exact isOn_results_possessive (a := a) hn repeated lo hi h
  | anchor condition =>
    intro t ht
    rw [results] at ht
    split at ht
    · rwa [List.mem_singleton.mp ht]
    · cases ht
  | again index casing =>
    intro t ht
    rw [results] at ht
    split at ht
    · exact h.takeText (Option.mem_toList.mp ht)
    · cases ht
  | look back negated a ih =>
    intro t ht
    cases back with
    | none => exact h.looked negated (fun s' hs' => ih hn h s' (List.mem_of_mem_head? hs')) t ht
    | some n =>
      refine h.looked negated (fun s' hs' => ?_) t ht
      obtain ⟨from_, hback, hs'⟩ := Option.bind_eq_some_iff.mp hs'
      exact ih hn (h.back? hback) s' (List.mem_of_mem_head? hs')
  | atomic a ih =>
    intro t ht
    exact ih hn h t (List.mem_of_mem_take ht)
  | ifGroup index yes no ihYes ihNo =>
    obtain ⟨hyes, hno⟩ := Bool.and_eq_true_iff.mp hn
    intro t ht
    rw [results] at ht
    split at ht
    · exact ihYes hyes h t ht
    · exact ihNo hno h t ht

/-- Wherever an expression may lead, the marks below its own groups are kept. -/
theorem Node.isOn_results {n : Node} (hn : n.isAbove marks.length) {s : Cursor}
    (h : s.IsOn path count marks) : ∀ t ∈ n.results s, t.IsOn path count marks :=
  isOn_results_of_spares (spares_of_isAbove hn) h

/-- An expression without conditions does not ask about a group. -/
lemma Node.asksOwnGroup_of_isAbove {n : Node} {lo : Nat} (hn : n.isAbove lo) :
    (∀ index, n.asksAbout index = false) ∧ n.asksOwnGroup = false := by
  induction n with
  | empty | chars | anchor | again => exact ⟨fun _ => rfl, rfl⟩
  | seq a b iha ihb =>
    obtain ⟨ha, hb⟩ := Bool.and_eq_true_iff.mp hn
    simp [asksAbout, asksOwnGroup, iha ha, ihb hb]
  | alt a b iha ihb =>
    obtain ⟨ha, hb⟩ := Bool.and_eq_true_iff.mp hn
    simp [asksAbout, asksOwnGroup, iha ha, ihb hb]
  | group index a ih =>
    obtain ⟨-, ha⟩ := Bool.and_eq_true_iff.mp hn
    simp [asksAbout, asksOwnGroup, ih ha]
  | loop eager lo hi a ih => simp [asksAbout, asksOwnGroup, ih hn]
  | possessive repeated lo hi a ih => simp [asksAbout, asksOwnGroup, ih hn]
  | look back negated a => cases hn
  | atomic a => cases hn
  | ifGroup index yes no => cases hn

end ActionRouting.Regex
