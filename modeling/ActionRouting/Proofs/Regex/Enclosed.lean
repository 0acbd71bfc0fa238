import ActionRouting.Proofs.Regex.Growth
import ActionRouting.Proofs.Regex.Kept
import ActionRouting.Proofs.Regex.Nested

/-! What capture groups with at most one level of further groups are compiled to: each is one group
of the expression, and the groups in it have the numbers behind its own. -/
namespace ActionRouting.Regex

variable {lo : Nat}

namespace Node

lemma isStructural_isAbove : IsStructural (isAbove lo) :=
  ⟨rfl, fun _ => rfl, fun _ _ => rfl, fun _ _ => rfl⟩

lemma isAbove_inLoop {n : Node} (h : n.isAbove lo) : n.inLoop.isAbove lo := by
  induction n with
  | seq a b iha ihb =>
    obtain ⟨ha, hb⟩ := Bool.and_eq_true_iff.mp h
    exact Bool.and_eq_true_iff.mpr ⟨iha ha, ihb hb⟩
  | alt a b iha ihb =>
    obtain ⟨ha, hb⟩ := Bool.and_eq_true_iff.mp h
    exact Bool.and_eq_true_iff.mpr ⟨iha ha, ihb hb⟩
  | group index a ih =>
    obtain ⟨hi, ha⟩ := Bool.and_eq_true_iff.mp h
    exact Bool.and_eq_true_iff.mpr ⟨hi, ih ha⟩
  | possessive repeated least greatest a ih => exact ih h
  | look | atomic | ifGroup => cases h
  | empty | chars | loop | anchor | again => exact h

lemma isAbove_ofRepetition {n : Node} (h : n.isAbove lo) (mode : Mode) (least : Nat)
    (greatest : Option Nat) : (ofRepetition mode least greatest n).isAbove lo := by
  cases mode with
  | greedy => exact isAbove_inLoop h
  | lazy => exact isAbove_inLoop h
  | possessive => exact h

end Node

/-- The capture groups of what was read in a group have numbers above `lo`. -/
structure Frame.IsAbove (lo : Nat) (f : Frame) : Prop where
  parts : ∀ part ∈ f.parts, part.nodes.all (Node.isAbove lo)
  branches : ∀ branch ∈ f.branches, branch.all (Node.isAbove lo)

namespace Frame.IsAbove

variable {f : Frame}

lemma fresh (lo : Nat) (opening : Opening) (flags : Flags) : IsAbove lo { opening, flags } :=
  ⟨by simp, by simp⟩

lemma push (h : f.IsAbove lo) {part : Part} (hp : part.nodes.all (Node.isAbove lo)) :
    IsAbove lo { f with parts := part :: f.parts } :=
  ⟨List.forall_mem_cons.mpr ⟨hp, h.parts⟩, h.branches⟩

lemma branch (h : f.IsAbove lo) : f.branch.all (Node.isAbove lo) := by
  rw [Frame.branch, List.all_flatMap, List.all_reverse, List.all_eq_true]
  exact h.parts

lemma nextBranch (h : f.IsAbove lo) :
    IsAbove lo { f with branches := f.branch :: f.branches, parts := [] } where
  parts := by simp
  branches := by
    intro branch hb
    rcases List.mem_cons.mp hb with rfl | hb
    · exact h.branch
    · exact h.branches branch hb

lemma nodes (h : f.IsAbove lo) : f.nodes.all (Node.isAbove lo) := by
  refine Node.isStructural_isAbove.ofBranches fun branch hb => ?_
  exact h.nextBranch.branches branch (List.mem_reverse.mp hb)

lemma node (h : f.IsAbove lo) : f.node.isAbove lo := by
  rw [Frame.node, Node.isStructural_isAbove.ofParts]
  exact h.nodes

end Frame.IsAbove

namespace Parser

variable {p q : Parser} {t : Token} {ts : List Token} {n : Nat} {inner : Bool} {opening : Opening}
  {outer : List Frame}

/-- Reading has stayed in its group, whose capture groups have numbers above `lo`. -/
structure Stays (lo : Nat) (p q : Parser) : Prop where
  outer : q.outer = p.outer
  opening : q.frame.opening = p.frame.opening
  groups : q.groups = p.groups
  isAbove : q.frame.IsAbove lo

lemma stays_push (h : p.frame.IsAbove lo) {node : Node} (hn : node.isAbove lo) :
    Stays lo p (p.push node) :=
  ⟨rfl, rfl, rfl, h.push (by rw [Part.nodes, List.all_cons, hn]; rfl)⟩

lemma stays_refer {index : Nat} (hp : p.frame.IsAbove lo) (h : p.refer index = .ok q) :
    Stays lo p q := by
  obtain rfl := refer_eq_ok h
  exact stays_push hp rfl

lemma stays_repeatLast {mode : Mode} {least : Nat} {greatest : Option Nat}
    (hp : p.frame.IsAbove lo) (h : p.repeatLast mode least greatest = .ok q) : Stays lo p q := by
  obtain ⟨part, rest, late, hparts, rfl⟩ := repeatLast_eq_ok h
  obtain ⟨hpart, hrest⟩ := List.forall_mem_cons.mp (hparts ▸ hp.parts)
  have hnode : part.node.isAbove lo := by
    cases part with
    | single node =>
      rw [Part.nodes, List.all_cons, Bool.and_eq_true] at hpart
      exact hpart.1
    | plain nodes =>
      rw [Part.node, Node.isStructural_isAbove.ofParts]
      exact hpart
  refine ⟨rfl, rfl, rfl, List.forall_mem_cons.mpr ⟨?_, hrest⟩, hp.branches⟩
  rw [Part.nodes, List.all_cons, Node.isAbove_ofRepetition hnode]
  rfl

/-- A token that is no parenthesis stays in its group. -/
lemma stays_plain (ht : t.IsPlain) (hp : p.frame.IsAbove lo) (h : p.step t = .ok q) :
    Stays lo p q := by
  cases t with
  | char | set | dot | caret | dollar | textStart | textEnd | boundary =>
    cases h
    exact stays_push hp rfl
  | quantifier mode least greatest => exact stays_repeatLast hp h
  | bar =>
    simp only [step, nextBranch] at h
    split at h
    · cases h
    · cases h
      exact ⟨rfl, rfl, rfl, hp.nextBranch⟩
  | reference index => exact stays_refer hp h
  | namedReference name =>
    simp only [step] at h
    split at h
    · exact stays_refer hp h
    · cases h
  | comment =>
    cases h
    exact ⟨rfl, rfl, rfl, hp⟩
  | bad e => cases h
  | flags on => cases ht.2 []
  | openCapture | openPlain | openLook | openAtomic | openIfGroup | openIfNamed | close =>
    cases ht.1

/-- Reading stands in a capture group, or, if `inner` says so, in a plain or a capture group in it.
The capture groups in it have numbers above `lo`. -/
inductive Within (lo : Nat) (outer : List Frame) (opening : Opening) : Bool → Parser → Prop
  | here {p : Parser} : p.outer = outer → p.frame.opening = opening → p.frame.IsAbove lo →
      Within lo outer opening false p
  | deeper {p : Parser} {frame : Frame} : p.outer = frame :: outer → frame.opening = opening →
      frame.IsAbove lo → p.frame.IsAbove lo →
      (p.frame.opening = .plain ∨ ∃ index, lo < index ∧ p.frame.opening = .capture index) →
      Within lo outer opening true p

lemma Within.isAbove (h : p.Within lo outer opening inner) : p.frame.IsAbove lo := by
  cases h <;> assumption

lemma Within.stays (h : p.Within lo outer opening inner) (hs : Stays lo p q) :
    q.Within lo outer opening inner := by
  cases h with
  | here ho hi _ => exact .here (hs.outer.trans ho) (hs.opening.trans hi) hs.isAbove
  | deeper ho hi hf _ hk =>
    rw [← hs.opening] at hk
    exact .deeper (hs.outer.trans ho) hi hf hs.isAbove hk

/-- A group that was opened in a capture group is left. -/
lemma within_leave (hp : p.Within lo outer opening true) (h : p.leave = .ok q) :
    q.Within lo outer opening false ∧ q.groups.length = p.groups.length := by
  cases hp with
  | deeper ho hi hframe hbody hk =>
    unfold leave at h
    rw [ho] at h
    rcases hk with hk | ⟨index, hlo, hk⟩
    · simp only [hk] at h
      cases h
      exact ⟨.here rfl hi (hframe.push hbody.nodes), rfl⟩
    · simp only [hk] at h
      cases h
      refine ⟨.here rfl hi (hframe.push ?_), List.length_set⟩
      rw [Part.nodes, List.all_cons, Node.isAbove, decide_eq_true hlo, hbody.node]
      rfl

/-- What stands in a capture group is read in it, and its capture groups are counted. -/
lemma within_run (hts : Inside inner ts n) (hp : p.Within lo outer opening inner)
    (hlo : lo ≤ p.groups.length) (h : p.run ts = .ok q) :
    q.Within lo outer opening false ∧ q.groups.length = p.groups.length + n := by
  induction hts generalizing p with
  | nil =>
    cases h
    exact ⟨hp, rfl⟩
  | plain ht _ ih =>
    obtain ⟨p₁, h₁, h⟩ := run_cons_eq_ok h
    have hs := stays_plain ht hp.isAbove h₁
    have hrest := ih (hp.stays hs) (by rwa [hs.groups]) h
    rwa [hs.groups] at hrest
  | openPlain _ ih =>
    obtain ⟨p₁, h₁, h⟩ := run_cons_eq_ok h
    have hentered := enter_eq_ok h₁
    have hgroups : p₁.groups = p.groups := by rw [hentered]
    have hp₁ : p₁.Within lo outer opening true := by
      cases hp with
      | here ho hi hframe =>
        rw [hentered]
        exact .deeper (congrArg (p.frame :: ·) ho) hi hframe (.fresh _ _ _) (.inl rfl)
    rw [← hgroups] at hlo ⊢
    exact ih hp₁ hlo h
  | openCapture _ ih =>
    obtain ⟨p₁, h₁, h⟩ := run_cons_eq_ok h
    obtain ⟨houter, hframe₁, hgroups⟩ := openCapture_eq_ok h₁
    have hlength : p₁.groups.length = p.groups.length + 1 := by
      rw [hgroups, List.length_append, List.length_singleton]
    have hp₁ : p₁.Within lo outer opening true := by
      cases hp with
      | here ho hi hframe =>
        refine .deeper (houter.trans (congrArg _ ho)) hi hframe ?_ (.inr ?_)
        · rw [hframe₁]
          exact .fresh _ _ _
        · exact ⟨_, Nat.lt_succ_of_le hlo, congrArg Frame.opening hframe₁⟩
    obtain ⟨hq, hcount⟩ := ih hp₁ (by omega) h
    exact ⟨hq, by omega⟩
  | close _ ih =>
    obtain ⟨p₁, h₁, h⟩ := run_cons_eq_ok h
    obtain ⟨hp₁, hgroups⟩ := within_leave hp h₁
    rw [← hgroups] at hlo ⊢
    exact ih hp₁ hlo h

/-- A capture group is read as one expression, whose own capture groups have the next numbers. -/
lemma grows_group {name : Option String} (hts : Inside false ts n)
    (h : p.run (.openCapture name :: (ts ++ [.close])) = .ok q) :
    ∃ a : Node, a.isAbove (p.groups.length + 1) ∧ Grows p q [.group (p.groups.length + 1) a] ∧
      q.groups.length = p.groups.length + 1 + n := by
  obtain ⟨p₁, h₁, h⟩ := run_cons_eq_ok h
  obtain ⟨p₂, h₂, h₃⟩ := run_append_eq_ok h
  obtain ⟨houter, hframe, hgroups⟩ := openCapture_eq_ok h₁
  have hlength : p₁.groups.length = p.groups.length + 1 := by
    rw [hgroups, List.length_append, List.length_singleton]
  have hp₁ : p₁.Within (p.groups.length + 1) p₁.outer p₁.frame.opening false := by
    refine .here rfl rfl ?_
    rw [hframe]
    exact .fresh _ _ _
  obtain ⟨hp₂, hcount⟩ := within_run hts hp₁ (by omega) h₂
  have hleave := run_singleton_eq_ok h₃
  cases hp₂ with
  | here ho hi habove =>
    refine ⟨_, habove.node, grows_capture h₁ ho hi hleave, ?_⟩
    have hlast : q.groups.length = p₂.groups.length := (leave_counts hleave).groups
    omega

end Parser

/-- The number of capture groups that some items are and hold. -/
def capturesOf : List Item → Nat
  | [] => 0
  | .group _ body :: items => capturesOf items + opensOf body + 1
  | _ :: items => capturesOf items

lemma groupsOf_le_capturesOf (items : List Item) : groupsOf items ≤ capturesOf items := by
  induction items with
  | nil => exact Nat.le_refl 0
  | cons i items ih =>
    cases i with
    | char c => exact ih
    | escaped c => exact ih
    | group name body =>
      rw [groupsOf, capturesOf, Item.groupCount]
      omega

/-- What some items are compiled to when `count` capture groups stand before them: a group has the
next number, and those in it the numbers behind. -/
inductive Built : Nat → List Item → List Node → Prop
  | nil {count : Nat} : Built count [] []
  | char {count : Nat} {c : Char} {items : List Item} {nodes : List Node} :
      Built count items nodes → Built count (.char c :: items) (charOf {} c :: nodes)
  | group {count : Nat} {name : Option (List Char)} {body : List Char} {a : Node}
      {items : List Item} {nodes : List Node} :
      a.isAbove (count + 1) → Built (count + 1 + opensOf body) items nodes →
      Built count (.group name body :: items) (.group (count + 1) a :: nodes)

section Compile

variable {p q : Parser} {items : List Item} {ts : List Token}

lemma grows_cut (hts : Cut items ts) (hf : p.frame.flags = {}) (h : p.run ts = .ok q) :
    ∃ nodes, Built p.groups.length items nodes ∧
      Parser.Grows p q (nodes ++ [.anchor .finalLineEnd]) ∧
      q.groups.length = p.groups.length + capturesOf items := by
  induction hts generalizing p with
  | nil =>
    have hpush := Parser.grows_push p (.anchor .finalLineEnd)
    have hstep := Parser.run_singleton_eq_ok h
    rw [Parser.step, hf] at hstep
    cases hstep
    exact ⟨[], .nil, hpush, rfl⟩
  | @char c items ts _ ih =>
    obtain ⟨p₁, h₁, h⟩ := Parser.run_cons_eq_ok h
    have hchar : Parser.Grows p p₁ [charOf {} c] := by
      have hgrows := grows_char (p := p) (q := p₁) (n := c.toNat) (by rw [Parser.run_cons, h₁]; rfl)
      rwa [hf] at hgrows
    have hgroups : p₁.groups = p.groups := by
      cases h₁
      rfl
    obtain ⟨nodes, hbuilt, hgrows, hcount⟩ := ih (hchar.flags.trans hf) h
    rw [hgroups] at hbuilt hcount
    exact ⟨_, .char hbuilt, hchar.trans hgrows, hcount⟩
  | @group name body items us ts hus _ ih =>
    rw [show us ++ Token.close :: ts = us ++ [.close] ++ ts by simp, ← List.cons_append] at h
    obtain ⟨p₁, h₁, h⟩ := Parser.run_append_eq_ok h
    obtain ⟨a, ha, hgroup, hlength⟩ := Parser.grows_group hus h₁
    obtain ⟨nodes, hbuilt, hgrows, hcount⟩ := ih (hgroup.flags.trans hf) h
    rw [hlength] at hbuilt hcount
    refine ⟨_, .group ha hbuilt, hgroup.trans hgrows, ?_⟩
    rw [hcount, capturesOf]
    omega

lemma Node.isStructural_asksNot : Node.IsStructural fun n => !n.asksOwnGroup :=
  ⟨rfl, fun _ => rfl, fun _ _ => Bool.not_or _ _, fun _ _ => Bool.not_or _ _⟩

lemma Built.asksNot {count : Nat} {nodes : List Node} (h : Built count items nodes) :
    nodes.all fun n => !n.asksOwnGroup := by
  induction h with
  | nil => rfl
  | char _ ih => exact ih
  | group ha _ ih =>
    obtain ⟨hasks, hown⟩ := Node.asksOwnGroup_of_isAbove ha
    rw [List.all_cons, Node.asksOwnGroup, hasks, hown, ih]
    rfl

/-- A text that is accepted is compiled item by item. -/
theorem built_of_compile {r : Regex} (hi : ∀ i ∈ items, i.isNested)
    (hp : readsParens (sourceOf items .bare))
    (h : compile {} (String.ofList (sourceOf items .bare)) = .ok r) :
    ∃ nodes, Built 0 items nodes ∧
      r.root = .ofParts (.anchor .textStart :: (nodes ++ [.anchor .finalLineEnd])) ∧
      r.groupCount = capturesOf items ∧ r.byTrial = false := by
  obtain ⟨p, hrun, -, hroot, hcount, -, -, htrial⟩ := compile_root h
  rw [String.toList_ofList] at hrun
  obtain ⟨ts, hts, hshows⟩ := (shows_tokens hp).tail rfl
  rw [show ({} : Flags).verbose = false from rfl, hts] at hrun
  obtain ⟨p₁, h₁, h₂⟩ := Parser.run_cons_eq_ok hrun
  cases h₁
  obtain ⟨nodes, hbuilt, hgrows, hgroups⟩ := grows_cut (cut_of_shows hi hshows) rfl h₂
  have hall := (Parser.grows_push (.start {}) (.anchor .textStart)).trans hgrows
  have hnode : r.root = .ofParts (.anchor .textStart :: (nodes ++ [.anchor .finalLineEnd])) := by
    rw [hroot, Frame.node, Frame.nodes, hall.branches, hall.branch]
    rfl
  have hasks : r.root.asksOwnGroup = false := by
    rw [← Bool.not_eq_true', hnode, Node.isStructural_asksNot.ofParts, List.all_cons,
      List.all_append, hbuilt.asksNot]
    rfl
  refine ⟨nodes, hbuilt, hnode, ?_, htrial.trans hasks⟩
  rw [hcount, hgroups]
  exact Nat.zero_add _

end Compile

end ActionRouting.Regex
