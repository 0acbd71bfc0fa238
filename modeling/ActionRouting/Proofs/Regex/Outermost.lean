import ActionRouting.Proofs.Regex.Growth

/-! The outermost group of a regular expression. Where no bar stands outside all groups it has one
branch, and what the text begins and ends with there comes first and last in all that matches. -/
namespace ActionRouting.Regex

/-- How many groups are open behind a token, by how many are open before it. -/
def Token.depthAfter (t : Token) (depth : Nat) : Nat :=
  match t.paren? with
  | none => depth
  | some .close => depth - 1
  | some _ => depth + 1

/-- A bar stands outside all groups among tokens before which some groups are open. -/
def hasOuterBar : Nat → List Token → Bool
  | _, [] => false
  | depth, t :: ts => (depth == 0 && t == .bar) || hasOuterBar (t.depthAfter depth) ts

lemma hasOuterBar_cons {depth : Nat} {t : Token} {ts : List Token}
    (h : hasOuterBar depth (t :: ts) = false) :
    (depth = 0 → t ≠ .bar) ∧ hasOuterBar (t.depthAfter depth) ts = false := by
  obtain ⟨hfirst, hrest⟩ := Bool.or_eq_false_iff.mp h
  refine ⟨?_, hrest⟩
  rintro rfl rfl
  cases hfirst

lemma hasOuterBar_append {depth : Nat} {ts us : List Token}
    (h : hasOuterBar depth (ts ++ us) = false) : hasOuterBar depth ts = false := by
  induction ts generalizing depth with
  | nil => rfl
  | cons t ts ih =>
    obtain ⟨hfirst, hrest⟩ := Bool.or_eq_false_iff.mp h
    exact Bool.or_eq_false_iff.mpr ⟨hfirst, ih hrest⟩

example : hasOuterBar 0 (tokens false "^/(a|b)/?$".toList) = false ∧
    hasOuterBar 0 (tokens false "^(a)|(b)/?$".toList) = true := by decide

namespace Frame

/-- A group has one branch, which begins with the start of the text, and lines do not count in
it. -/
structure BeginsText (f : Frame) : Prop where
  multiLine : f.flags.multiLine = false
  branches : f.branches = []
  parts : ∃ parts, f.parts = parts ++ [.single (.anchor .textStart)]

lemma BeginsText.branch {f : Frame} (h : f.BeginsText) :
    ∃ nodes, f.branch = .anchor .textStart :: nodes := by
  obtain ⟨parts, hparts⟩ := h.parts
  exact ⟨parts.reverse.flatMap Part.nodes, by simp [Frame.branch, hparts, Part.nodes]⟩

lemma node_of_branches {f : Frame} (h : f.branches = []) : f.node = .ofParts f.branch := by
  rw [node, nodes, h]
  rfl

/-- The last of some groups, the first of which is given apart. -/
def outermost : Frame → List Frame → Frame
  | f, [] => f
  | _, g :: outer => outermost g outer

variable {f : Frame} {outer : List Frame}

lemma BeginsText.push (h : f.BeginsText) (part : Part) :
    BeginsText { f with parts := part :: f.parts } := by
  obtain ⟨parts, hparts⟩ := h.parts
  exact ⟨h.multiLine, h.branches, part :: parts, congrArg (part :: ·) hparts⟩

lemma BeginsText.outermost_push (h : (outermost f outer).BeginsText) (part : Part) :
    (outermost { f with parts := part :: f.parts } outer).BeginsText := by
  cases outer with
  | nil => exact h.push part
  | cons g outer => exact h

end Frame

namespace Parser

variable {p q : Parser} {t : Token} {ts : List Token}

/-- The outermost of the groups that are open begins with the start of the text. -/
def BeginsText (p : Parser) : Prop := (Frame.outermost p.frame p.outer).BeginsText

lemma BeginsText.push (h : p.BeginsText) (n : Node) : (p.push n).BeginsText :=
  Frame.BeginsText.outermost_push h (.single n)

lemma BeginsText.enter (h : p.BeginsText) {opening : Opening} {flags : Flags}
    (he : p.enter opening flags = .ok q) : q.BeginsText := by
  cases enter_eq_ok he
  exact h

lemma BeginsText.enterIf (h : p.BeginsText) {index : Nat} (he : p.enterIf index = .ok q) :
    q.BeginsText := by
  unfold Parser.enterIf at he
  split at he
  · exact h.enter he
  · split at he
    · cases he
    · split at he
      · cases he
      · exact h.enter he

lemma BeginsText.refer (h : p.BeginsText) {index : Nat} (hr : p.refer index = .ok q) :
    q.BeginsText := by
  unfold Parser.refer at hr
  split at hr
  · cases hr
  · cases hr
  · split at hr
    · cases hr
    · cases hr
      exact h.push _

lemma BeginsText.openCapture (h : p.BeginsText) {name : Option String}
    (ho : p.openCapture name = .ok q) : q.BeginsText := by
  obtain ⟨houter, hframe, -⟩ := openCapture_eq_ok ho
  rw [BeginsText, houter]
  exact h

/-- A group that is left becomes a part of the one around it. -/
lemma leave_eq_ok (h : p.leave = .ok q) : ∃ frame outer part, p.outer = frame :: outer ∧
    q.outer = outer ∧ q.frame = { frame with parts := part :: frame.parts } := by
  unfold leave at h
  split at h
  · cases h
  · next frame outer ho =>
    refine ⟨frame, outer, ?_⟩
    dsimp only at h
    split at h
    case h_1 => cases h
    case h_6 =>
      obtain ⟨late, hl⟩ := checkLookbehind_eq { p with frame, outer } (p.frame.node.width p.groups)
      rw [hl] at h
      cases h
      exact ⟨_, ho, rfl, rfl⟩
    all_goals
      cases h
      exact ⟨_, ho, rfl, rfl⟩

lemma BeginsText.leave (h : p.BeginsText) (hl : p.leave = .ok q) : q.BeginsText := by
  obtain ⟨frame, outer, part, hp, hq, hframe⟩ := leave_eq_ok hl
  rw [BeginsText, hp] at h
  rw [BeginsText, hq, hframe]
  exact Frame.BeginsText.outermost_push (f := frame) h part

/-- An anchor is not repeated. -/
lemma repeatLast_anchor {condition : Anchor} {rest : List Part}
    (h : p.frame.parts = .single (.anchor condition) :: rest) (mode : Mode) (lo : Nat)
    (hi : Option Nat) : p.repeatLast mode lo hi = .error .nothingToRepeat := by
  obtain ⟨late, hl⟩ := blame_eq p .repeatedInTemplate
  unfold repeatLast
  split
  · rw [hl]
    simp only [h]
  · simp only [h]

lemma BeginsText.repeatLast (h : p.BeginsText) {mode : Mode} {lo : Nat} {hi : Option Nat}
    (hr : p.repeatLast mode lo hi = .ok q) : q.BeginsText := by
  obtain ⟨part, rest, late, hparts, rfl⟩ := repeatLast_eq_ok hr
  rw [BeginsText] at h ⊢
  dsimp only
  cases ho : p.outer with
  | nil =>
    rw [ho] at h
    obtain ⟨parts, hp⟩ := h.parts
    refine ⟨h.multiLine, h.branches, ?_⟩
    cases parts with
    | nil =>
      have hfirst : p.frame.parts = [.single (.anchor .textStart)] := hp
      rw [repeatLast_anchor hfirst] at hr
      cases hr
    | cons first parts =>
      have hrest : rest = parts ++ [.single (.anchor .textStart)] :=
        (List.cons.inj (hparts.symm.trans hp)).2
      exact ⟨_ :: parts, congrArg (_ :: ·) hrest⟩
  | cons g outer =>
    rw [ho] at h
    exact h

lemma BeginsText.nextBranch (h : p.BeginsText) (ho : p.outer ≠ []) (hn : p.nextBranch = .ok q) :
    q.BeginsText := by
  obtain ⟨g, outer, houter⟩ := List.exists_cons_of_ne_nil ho
  unfold Parser.nextBranch at hn
  split at hn
  · cases hn
  · cases hn
    rw [BeginsText, houter] at h
    rw [BeginsText, houter]
    exact h

/-- The start of the text stands before every option. -/
lemma BeginsText.step_flags (h : p.BeginsText) (on : Flags) :
    p.step (.flags on) = .error .lateFlags := by
  refine if_neg fun hfirst => ?_
  rw [BeginsText, hfirst.1] at h
  obtain ⟨parts, hparts⟩ := h.parts
  have := hfirst.2.2.symm.trans hparts
  simp at this

/-- One token keeps the start of the text first, unless it is a bar outside all groups. -/
lemma BeginsText.step (h : p.BeginsText) (hbar : p.outer = [] → t ≠ .bar)
    (hs : p.step t = .ok q) : q.BeginsText := by
  cases t with
  | char | set | dot | caret | dollar | textStart | textEnd | boundary =>
    cases hs
    exact h.push _
  | comment =>
    cases hs
    exact h
  | quantifier mode lo hi => exact h.repeatLast hs
  | bar => exact h.nextBranch (fun ho => hbar ho rfl) hs
  | openCapture name => exact h.openCapture hs
  | openPlain on off => exact h.enter hs
  | openLook behind negated => exact h.enter hs
  | openAtomic => exact h.enter hs
  | openIfGroup index =>
    exact BeginsText.enterIf (p := { p with conditions := index :: p.conditions }) h hs
  | openIfNamed name =>
    simp only [Parser.step] at hs
    split at hs
    · exact h.enterIf hs
    · cases hs
  | close => exact h.leave hs
  | flags on =>
    rw [h.step_flags] at hs
    cases hs
  | reference index => exact h.refer hs
  | namedReference name =>
    simp only [Parser.step] at hs
    split at hs
    · exact h.refer hs
    · cases hs
  | bad e => cases hs

lemma begins_of_caret {flags : Flags} (hm : flags.multiLine = false)
    (hs : (start flags).step .caret = .ok q) : q.BeginsText ∧ q.outer = [] := by
  cases hs
  refine ⟨⟨hm, rfl, [], ?_⟩, rfl⟩
  simp [Parser.push, Parser.start, hm, Frame.outermost]

lemma length_outer_of_step (hs : p.step t = .ok q) :
    q.outer.length = t.depthAfter p.outer.length := by
  have hcount := (step_counts hs).outer
  rw [Token.depthAfter]
  cases ht : t.paren? with
  | none =>
    rw [ht] at hcount
    simpa using hcount
  | some paren =>
    rw [ht] at hcount
    cases paren <;> simp at hcount ⊢ <;> omega

/-- Reading tokens none of which is a bar outside all groups keeps the start of the text first. -/
theorem BeginsText.run (h : p.BeginsText) (hbar : hasOuterBar p.outer.length ts = false)
    (hr : p.run ts = .ok q) : q.BeginsText := by
  induction ts generalizing p with
  | nil =>
    cases hr
    exact h
  | cons t ts ih =>
    obtain ⟨p', hs, hr⟩ := run_cons_eq_ok hr
    obtain ⟨hfirst, hrest⟩ := hasOuterBar_cons hbar
    refine ih (h.step (fun ho => hfirst (List.length_eq_zero_iff.mpr ho)) hs) ?_ hr
    rwa [length_outer_of_step hs]

end Parser

/-- A regular expression that begins with a caret, and has no bar outside all groups, begins with
the start of the text; if it ends with a dollar sign it ends with the end of the last line. -/
theorem root_of_tokens {flags : Flags} {source : String} {r : Regex}
    (h : compile flags source = .ok r) (hm : flags.multiLine = false) {ts : List Token}
    (hts : tokens flags.verbose source.toList = .caret :: ts) (hbar : hasOuterBar 0 ts = false) :
    ∃ nodes, r.root = .ofParts (.anchor .textStart :: nodes) ∧
      (ts.getLast? = some .dollar → ∃ inner, nodes = inner ++ [.anchor .finalLineEnd]) := by
  obtain ⟨p, hp, -, hroot, -⟩ := compile_root h
  obtain ⟨p', hp', houter, -⟩ := compile_run h
  obtain rfl := Except.ok.inj (hp'.symm.trans hp)
  rw [hts] at hp
  obtain ⟨q, hq, hp⟩ := Parser.run_cons_eq_ok hp
  obtain ⟨hfirst, hdepth⟩ := Parser.begins_of_caret hm hq
  have hbar' : hasOuterBar q.outer.length ts = false := by rwa [hdepth]
  have hend := hfirst.run hbar' hp
  rw [Parser.BeginsText, houter, Frame.outermost] at hend
  rw [hroot, Frame.node_of_branches hend.branches]
  by_cases hlast : ts.getLast? = some .dollar
  · obtain ⟨us, rfl⟩ := List.getLast?_eq_some_iff.mp hlast
    obtain ⟨p₁, hp₁, hp⟩ := Parser.run_append_eq_ok hp
    have hbefore := hfirst.run (hasOuterBar_append hbar') hp₁
    cases Parser.run_singleton_eq_ok hp
    rw [Parser.BeginsText, show p₁.outer = [] from houter, Frame.outermost] at hbefore
    obtain ⟨nodes, hnodes⟩ := hbefore.branch
    have hflags : p₁.frame.flags.multiLine = false := hbefore.multiLine
    refine ⟨nodes ++ [.anchor .finalLineEnd], ?_, fun _ => ⟨nodes, rfl⟩⟩
    rw [(Parser.grows_push p₁ _).branch, hnodes, hflags]
    rfl
  · obtain ⟨nodes, hnodes⟩ := hend.branch
    exact ⟨nodes, congrArg _ hnodes, fun h => absurd h hlast⟩

end ActionRouting.Regex
