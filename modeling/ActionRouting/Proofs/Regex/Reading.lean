import Mathlib.Tactic.Lemma
import ActionRouting.Regex.Parser

/-! Reading a regular expression whose tokens are known: the text gives its tokens, and these add
parts to the group that is being read. -/
namespace ActionRouting.Regex

/-- A token leaves it to its place whether blanks count. -/
def Token.IsQuiet (t : Token) : Prop :=
  ∀ groups : List Bool, (∀ b ∈ groups, b = false) → ∀ b ∈ verbosity t groups, b = false

/-- A text is read as some tokens, where blanks count. -/
inductive Lexes : List Char → List Token → Prop
  | nil : Lexes [] []
  | cons {c : Char} {cs rest : List Char} {t : Token} {ts : List Token} :
      readToken c cs = (t, rest) → rest.length ≤ cs.length → t.IsQuiet → Lexes rest ts →
      Lexes (c :: cs) (t :: ts)

lemma Lexes.tokensFrom_eq {cs : List Char} {ts : List Token} (h : Lexes cs ts) {fuel : Nat}
    (hf : cs.length ≤ fuel) {groups : List Bool} (hg : ∀ b ∈ groups, b = false) :
    tokensFrom fuel groups cs = ts := by
  induction h generalizing fuel groups with
  | nil => cases fuel <;> rfl
  | @cons c cs rest t ts hr hl hq _ ih =>
    cases fuel with
    | zero => simp at hf
    | succ fuel =>
      have hv : groups.headD false = false := by
        cases groups with
        | nil => rfl
        | cons b groups => exact hg b List.mem_cons_self
      rw [tokensFrom, hv, Bool.false_and, Bool.false_and, if_neg Bool.false_ne_true,
        if_neg Bool.false_ne_true, hr]
      have hle : rest.length ≤ fuel := by
        rw [List.length_cons] at hf
        omega
      exact congrArg _ (ih hle (hq groups hg))

theorem Lexes.tokens_eq {cs : List Char} {ts : List Token} (h : Lexes cs ts) :
    tokens false cs = ts :=
  h.tokensFrom_eq (Nat.le_refl _) (by simp)

/-- A token that is no parenthesis and sets no options. -/
lemma Token.IsQuiet.of_eq {t : Token} (h : ∀ groups, verbosity t groups = groups) : t.IsQuiet :=
  fun groups hg => by rwa [h groups]

lemma isQuiet_char (n : Nat) : (Token.char n).IsQuiet := .of_eq fun _ => rfl

lemma isQuiet_openPlain : (Token.openPlain {} {}).IsQuiet := by
  intro groups hg b hb
  rcases List.mem_cons.mp hb with rfl | hb
  · cases groups with
    | nil => rfl
    | cons b groups => simpa using hg b List.mem_cons_self
  · exact hg b hb

lemma isQuiet_openCapture (name : Option String) : (Token.openCapture name).IsQuiet := by
  intro groups hg b hb
  rcases List.mem_cons.mp hb with rfl | hb
  · cases groups with
    | nil => rfl
    | cons b groups => exact hg b List.mem_cons_self
  · exact hg b hb

lemma isQuiet_close : Token.close.IsQuiet := by
  intro groups hg b hb
  simp only [verbosity] at hb
  split at hb
  · exact hg b hb
  · exact hg b (List.mem_of_mem_tail hb)

/-- A question mark makes what is before it optional, unless a mark of a mode follows. -/
lemma readToken_query {cs : List Char} (h : cs.head? ≠ some '?') (h' : cs.head? ≠ some '+') :
    readToken '?' cs = (.quantifier .greedy 0 (some 1), cs) := by
  have hmode : readMode cs = (.greedy, cs) := by
    unfold readMode
    split
    · exact absurd rfl h
    · exact absurd rfl h'
    · rfl
  simp [readToken, readQuantifier, hmode]

namespace Parser

lemma run_cons (p : Parser) (t : Token) (ts : List Token) :
    p.run (t :: ts) = p.step t >>= fun q => q.run ts := by
  simp [run]

/-- The parser after some parts were added to the current branch, and some groups. -/
def grown (p : Parser) (parts : List Part) (widths : List (Option Width)) : Parser :=
  { p with frame := { p.frame with parts := parts ++ p.frame.parts }, groups := p.groups ++ widths }

/-- Reading some tokens adds some expressions to the current branch, and some capture groups. -/
def Adds (p : Parser) (ts : List Token) (nodes : List Node) (count : Nat) : Prop :=
  ∃ parts widths, p.run ts = .ok (p.grown parts widths) ∧
    parts.reverse.flatMap Part.nodes = nodes ∧ widths.length = count

lemma Adds.nil (p : Parser) : p.Adds [] [] 0 :=
  ⟨[], [], by simp [run, grown]; rfl, rfl, rfl⟩

lemma grown_grown (p : Parser) (parts parts' : List Part) (widths widths' : List (Option Width)) :
    (p.grown parts widths).grown parts' widths' =
      p.grown (parts' ++ parts) (widths ++ widths') := by
  simp [grown]

lemma Adds.append {p : Parser} {ts us : List Token} {nodes more : List Node} {n m : Nat}
    (h : p.Adds ts nodes n)
    (h' : ∀ parts widths, widths.length = n → (p.grown parts widths).Adds us more m) :
    p.Adds (ts ++ us) (nodes ++ more) (n + m) := by
  obtain ⟨parts, widths, hrun, hnodes, hcount⟩ := h
  obtain ⟨parts', widths', hrun', hnodes', hcount'⟩ := h' parts widths hcount
  refine ⟨parts' ++ parts, widths ++ widths', ?_, ?_, ?_⟩
  · rw [run_append, hrun, ← grown_grown]
    exact hrun'
  · rw [List.reverse_append, List.flatMap_append, hnodes, hnodes']
  · rw [List.length_append, hcount, hcount']

@[simp] lemma grown_flags (p : Parser) (parts : List Part) (widths : List (Option Width)) :
    (p.grown parts widths).frame.flags = p.frame.flags := rfl

@[simp] lemma grown_depth (p : Parser) (parts : List Part) (widths : List (Option Width)) :
    (p.grown parts widths).depth = p.depth := rfl

@[simp] lemma grown_groups (p : Parser) (parts : List Part) (widths : List (Option Width)) :
    (p.grown parts widths).groups = p.groups ++ widths := rfl

lemma branch_grown (p : Parser) (parts : List Part) (widths : List (Option Width)) :
    (p.grown parts widths).frame.branch = p.frame.branch ++ parts.reverse.flatMap Part.nodes := by
  simp [grown, Frame.branch]

/-- Reading some tokens leaves a group that holds some expressions, and adds some capture groups. -/
def Fills (p : Parser) (ts : List Token) (nodes : List Node) (count : Nat) : Prop :=
  ∃ frame widths, p.run ts = .ok { p with frame, groups := p.groups ++ widths } ∧
    frame.opening = p.frame.opening ∧ frame.nodes = nodes ∧ widths.length = count

def entered (p : Parser) (opening : Opening) (widths : List (Option Width)) : Parser :=
  { p with
    frame := { opening, flags := p.frame.flags }
    outer := p.frame :: p.outer
    groups := p.groups ++ widths }

@[simp] lemma entered_flags (p : Parser) (opening : Opening) (widths : List (Option Width)) :
    (p.entered opening widths).frame.flags = p.frame.flags := rfl

@[simp] lemma entered_groups (p : Parser) (opening : Opening) (widths : List (Option Width)) :
    (p.entered opening widths).groups = p.groups ++ widths := rfl

@[simp] lemma entered_depth (p : Parser) (opening : Opening) (widths : List (Option Width)) :
    (p.entered opening widths).depth = opening.depth + p.depth := by
  simp [entered, depth]

lemma Adds.fills {p : Parser} {opening : Opening} {widths : List (Option Width)} {ts : List Token}
    {nodes : List Node} {n : Nat} (h : (p.entered opening widths).Adds ts nodes n) :
    (p.entered opening widths).Fills ts nodes n := by
  obtain ⟨parts, more, hrun, hnodes, hcount⟩ := h
  refine ⟨_, more, hrun, rfl, ?_, hcount⟩
  have hb := branch_grown (p.entered opening widths) parts more
  rw [hnodes] at hb
  exact hb

lemma adds_char (p : Parser) (n : Nat) : p.Adds [.char n]
    [.chars ⟨false, [.char n], p.frame.flags.casing, p.frame.flags.ascii⟩] 0 := by
  have he : [Member.char n].eraseDups = [.char n] := rfl
  refine ⟨[.single (.chars ⟨false, [.char n], p.frame.flags.casing, p.frame.flags.ascii⟩)], [], ?_,
    rfl, rfl⟩
  simp [step, pushChars, push, grown, run, he]

/-- A set that is repeated as few times as possible. -/
lemma adds_lazy (p : Parser) (negated : Bool) {members : List Member}
    (hm : members.eraseDups = members) (ht : p.frame.flags.template = false) :
    p.Adds [.set negated members, .quantifier .lazy 1 none]
      [.loop false 1 none (.chars ⟨negated, members, p.frame.flags.casing,
        p.frame.flags.ascii⟩)] 0 := by
  refine ⟨[.single (.loop false 1 none (.chars ⟨negated, members, p.frame.flags.casing,
    p.frame.flags.ascii⟩))], [], ?_, rfl, rfl⟩
  simp [step, pushChars, push, grown, run, hm, ht, repeatLast, Part.node, Node.ofRepetition,
    Node.inLoop, bind, Except.bind]
  rfl

/-- Anything but the end of a line, repeated as often as possible. -/
lemma adds_anything (p : Parser) (hd : p.frame.flags.dotAll = false)
    (ht : p.frame.flags.template = false) : p.Adds [.dot, .quantifier .greedy 0 none]
      [.loop true 0 none (.chars ⟨true, [.range 10 10], p.frame.flags.casing,
        p.frame.flags.ascii⟩)] 0 := by
  have he : [Member.range 10 10].eraseDups = [.range 10 10] := rfl
  refine ⟨[.single (.loop true 0 none (.chars ⟨true, [.range 10 10], p.frame.flags.casing,
    p.frame.flags.ascii⟩))], [], ?_, rfl, rfl⟩
  simp [step, pushChars, push, grown, run, he, hd, ht, repeatLast, Part.node, Node.ofRepetition,
    Node.inLoop, bind, Except.bind]
  rfl

section Groups

variable {p : Parser} {ts : List Token} {nodes : List Node} {n : Nat}

lemma enter_eq (hd : p.depth + 2 ≤ depthLimit) {opening : Opening} (ho : opening.depth = 2) :
    p.enter opening p.frame.flags = .ok (p.entered opening []) := by
  rw [enter, ho, if_neg (by omega), entered, List.append_nil]

/-- What follows a group that is read to its end. -/
lemma run_close (h : (p.entered .plain []).Fills ts nodes n) (us : List Token) :
    ∃ widths, widths.length = n ∧ (p.entered .plain []).run (ts ++ .close :: us) =
      (p.grown [.plain nodes] widths).run us := by
  obtain ⟨frame, widths, hrun, hopen, hnodes, hcount⟩ := h
  refine ⟨widths, hcount, ?_⟩
  have hleave : Parser.leave { p.entered .plain [] with
      frame, groups := (p.entered .plain []).groups ++ widths } =
      .ok (p.grown [.plain nodes] widths) := by
    have : frame.opening = .plain := hopen
    simp [leave, entered, this, pushPlain, grown, hnodes]
  rw [run_append, hrun]
  change Parser.run _ (.close :: us) = _
  rw [run_cons, step, hleave]
  rfl

lemma step_openPlain (hd : p.depth + 2 ≤ depthLimit)
    (hf : p.frame.flags.inside {} {} = p.frame.flags) :
    p.step (.openPlain {} {}) = .ok (p.entered .plain []) := by
  rw [step, hf, if_pos ⟨rfl, rfl⟩, enter_eq hd rfl]

/-- A plain group adds what it holds. -/
lemma adds_plain (hd : p.depth + 2 ≤ depthLimit)
    (hf : p.frame.flags.inside {} {} = p.frame.flags)
    (h : (p.entered .plain []).Fills ts nodes n) :
    p.Adds (.openPlain {} {} :: (ts ++ [.close])) nodes n := by
  obtain ⟨widths, hcount, hrun⟩ := run_close h []
  refine ⟨[.plain nodes], widths, ?_, by simp [Part.nodes], hcount⟩
  rw [run_cons, step_openPlain hd hf]
  exact hrun

/-- A plain group that may be missing. -/
lemma adds_optional (hd : p.depth + 2 ≤ depthLimit)
    (hf : p.frame.flags.inside {} {} = p.frame.flags) (ht : p.frame.flags.template = false)
    (h : (p.entered .plain []).Fills ts nodes n) :
    p.Adds (.openPlain {} {} :: (ts ++ [.close, .quantifier .greedy 0 (some 1)]))
      [.loop true 0 (some 1) (Node.ofParts nodes).inLoop] n := by
  obtain ⟨widths, hcount, hrun⟩ := run_close h [.quantifier .greedy 0 (some 1)]
  refine ⟨[.single (.loop true 0 (some 1) (Node.ofParts nodes).inLoop)], widths, ?_, rfl, hcount⟩
  rw [run_cons, step_openPlain hd hf]
  refine hrun.trans ?_
  rw [run_cons, step, repeatLast, grown_flags, ht]
  rfl

/-- What follows a capture group that is read to its end. -/
lemma run_capture (hd : p.depth + 2 ≤ depthLimit)
    (h : (p.entered (.capture (p.groups.length + 1)) [none]).Fills ts nodes n) (us : List Token) :
    ∃ widths, widths.length = 1 + n ∧ p.run (.openCapture none :: (ts ++ .close :: us)) =
      (p.grown [.single (.group (p.groups.length + 1) (.ofParts nodes))] widths).run us := by
  obtain ⟨frame, widths, hrun, hopen, hnodes, hcount⟩ := h
  have hstep : p.step (.openCapture none) =
      .ok (p.entered (.capture (p.groups.length + 1)) [none]) := by
    have hle : ¬ depthLimit < p.depth + 2 := by omega
    simp only [step, openCapture, enter, Opening.depth]
    exact if_neg hle
  let full : Parser := { p.entered (.capture (p.groups.length + 1)) [none] with
    frame, groups := (p.entered (.capture (p.groups.length + 1)) [none]).groups ++ widths }
  have hleave : full.leave = .ok (p.grown [.single (.group (p.groups.length + 1) (.ofParts nodes))]
      (some ((Node.ofParts nodes).width full.groups) :: widths)) := by
    have hf : full.frame.opening = .capture (p.groups.length + 1) := hopen
    have hn : full.frame.node = .ofParts nodes := congrArg Node.ofParts hnodes
    have hg : full.groups.set p.groups.length (some ((Node.ofParts nodes).width full.groups)) =
        p.groups ++ some ((Node.ofParts nodes).width full.groups) :: widths := by
      simp [full]
    have ho : full.outer = p.frame :: p.outer := rfl
    unfold leave
    simp only [ho, hf, hn, Nat.add_sub_cancel, hg]
    rfl
  refine ⟨some ((Node.ofParts nodes).width full.groups) :: widths, ?_, ?_⟩
  · rw [List.length_cons, hcount, Nat.add_comm]
  · rw [run_cons, hstep]
    change Parser.run _ _ = _
    rw [run_append, hrun]
    change Parser.run full (.close :: us) = _
    rw [run_cons, step, hleave]
    rfl

/-- A capture group adds itself. -/
lemma adds_capture (hd : p.depth + 2 ≤ depthLimit)
    (h : (p.entered (.capture (p.groups.length + 1)) [none]).Fills ts nodes n) :
    p.Adds (.openCapture none :: (ts ++ [.close]))
      [.group (p.groups.length + 1) (.ofParts nodes)] (1 + n) := by
  obtain ⟨widths, hcount, hrun⟩ := run_capture hd h []
  exact ⟨[.single (.group (p.groups.length + 1) (.ofParts nodes))], widths, hrun, rfl, hcount⟩

/-- A capture group that may be missing. -/
lemma adds_optionalCapture (hd : p.depth + 2 ≤ depthLimit) (ht : p.frame.flags.template = false)
    (h : (p.entered (.capture (p.groups.length + 1)) [none]).Fills ts nodes n) :
    p.Adds (.openCapture none :: (ts ++ [.close, .quantifier .greedy 0 (some 1)]))
      [.loop true 0 (some 1) (.group (p.groups.length + 1) (Node.ofParts nodes).inLoop)]
      (1 + n) := by
  obtain ⟨widths, hcount, hrun⟩ := run_capture hd h [.quantifier .greedy 0 (some 1)]
  refine ⟨[.single (.loop true 0 (some 1)
    (.group (p.groups.length + 1) (Node.ofParts nodes).inLoop))], widths, ?_, rfl, hcount⟩
  refine hrun.trans ?_
  rw [run_cons, step, repeatLast, grown_flags, ht]
  rfl

/-- A bar in a capture group begins its next branch. -/
lemma step_bar {index : Nat} (ho : p.frame.opening = .capture index) :
    p.step .bar = .ok { p with frame :=
      { p.frame with branches := p.frame.branch :: p.frame.branches, parts := [] } } := by
  simp only [step, nextBranch]
  split
  · next hi _ =>
    rw [ho] at hi
    cases hi
  · rfl

end Groups

lemma adds_caret (p : Parser) (hf : p.frame.flags.multiLine = false) :
    p.Adds [.caret] [.anchor .textStart] 0 := by
  refine ⟨[.single (.anchor .textStart)], [], ?_, rfl, rfl⟩
  simp [step, push, grown, run, hf]

lemma adds_dollar (p : Parser) (hf : p.frame.flags.multiLine = false) :
    p.Adds [.dollar] [.anchor .finalLineEnd] 0 := by
  refine ⟨[.single (.anchor .finalLineEnd)], [], ?_, rfl, rfl⟩
  simp [step, push, grown, run, hf]

/-- A character that may be missing. -/
lemma adds_optionalChar (p : Parser) (n : Nat) (ht : p.frame.flags.template = false) :
    p.Adds [.char n, .quantifier .greedy 0 (some 1)]
      [.loop true 0 (some 1) (.chars ⟨false, [.char n], p.frame.flags.casing,
        p.frame.flags.ascii⟩)] 0 := by
  have he : [Member.char n].eraseDups = [.char n] := rfl
  refine ⟨[.single (.loop true 0 (some 1) (.chars ⟨false, [.char n], p.frame.flags.casing,
    p.frame.flags.ascii⟩))], [], ?_, rfl, rfl⟩
  simp [step, pushChars, push, grown, run, he, ht, repeatLast, Part.node, Node.ofRepetition,
    Node.inLoop, bind, Except.bind]
  rfl

end Parser

namespace Node

/-- An expression repeats nothing possessively and asks about no capture group. -/
def isBasic : Node → Bool
  | .empty | .chars _ | .anchor _ => true
  | .seq a b | .alt a b => a.isBasic && b.isBasic
  | .group _ a | .loop _ _ _ a => a.isBasic
  | _ => false

lemma isBasic_facts {n : Node} (h : n.isBasic) :
    n.repeatsPossessively = false ∧ (∀ index, n.asksAbout index = false) ∧
      n.asksOwnGroup = false := by
  induction n with
  | empty => exact ⟨rfl, fun _ => rfl, rfl⟩
  | chars s => exact ⟨rfl, fun _ => rfl, rfl⟩
  | anchor c => exact ⟨rfl, fun _ => rfl, rfl⟩
  | seq a b iha ihb =>
    rw [isBasic, Bool.and_eq_true] at h
    simp [repeatsPossessively, asksAbout, asksOwnGroup, iha h.1, ihb h.2]
  | alt a b iha ihb =>
    rw [isBasic, Bool.and_eq_true] at h
    simp [repeatsPossessively, asksAbout, asksOwnGroup, iha h.1, ihb h.2]
  | group index a ih => simp [repeatsPossessively, asksAbout, asksOwnGroup, ih h]
  | loop eager lo hi a ih => simp [repeatsPossessively, asksAbout, asksOwnGroup, ih h]
  | _ => cases h

/-- Parts in order have a property if and only if each has it, if this is so for two of them. -/
lemma ofParts_eq_all {P : Node → Bool} (hempty : P .empty = true)
    (hseq : ∀ a b, P (.seq a b) = (P a && P b)) (ns : List Node) : P (ofParts ns) = ns.all P := by
  induction ns with
  | nil => exact hempty
  | cons n ns ih =>
    rw [List.all_cons, ← ih]
    exact hseq _ _

/-- An expression has a property if and only if its parts in order and its alternatives have it. -/
structure IsStructural (P : Node → Bool) : Prop where
  empty : P .empty = true
  chars : ∀ set, P (.chars set) = true
  seq : ∀ a b, P (.seq a b) = (P a && P b)
  alt : ∀ a b, P (.alt a b) = (P a && P b)

namespace IsStructural

variable {P : Node → Bool} (hP : IsStructural P)
include hP

lemma ofParts (ns : List Node) : P (ofParts ns) = ns.all P := ofParts_eq_all hP.empty hP.seq ns

lemma ofAlternatives {ns : List Node} (h : ns.all P) : P (ofAlternatives ns) := by
  induction ns with
  | nil => exact hP.empty
  | cons n ns ih =>
    rw [List.all_cons, Bool.and_eq_true] at h
    cases ns with
    | nil => exact h.1
    | cons m ns =>
      rw [Node.ofAlternatives, hP.alt, h.1, ih h.2]
      · rfl
      · simp

lemma choice {branches : List (List Node)} (h : ∀ ns ∈ branches, ns.all P) :
    P (choice branches) := by
  unfold Node.choice
  split
  · exact hP.chars _
  · refine hP.ofAlternatives ?_
    rw [List.all_map, List.all_eq_true]
    intro ns hns
    rw [Function.comp_apply, hP.ofParts]
    exact h ns hns

lemma partsOfChoice {first : List Node} {rest : List (List Node)} (hf : first.all P)
    (hr : ∀ ns ∈ rest, ns.all P) : (partsOfChoice first rest).all P := by
  have hone (ns : List Node) (more : List (List Node)) (hns : ns.all P)
      (hmore : ∀ ms ∈ more, ms.all P) : [Node.choice (ns :: more)].all P := by
    rw [List.all_cons, hP.choice (List.forall_mem_cons.mpr ⟨hns, hmore⟩)]
    rfl
  induction first generalizing rest with
  | nil => exact hone [] rest rfl hr
  | cons n first ih =>
    rw [Node.partsOfChoice]
    split
    · rw [List.all_cons, Bool.and_eq_true] at hf ⊢
      refine ⟨hf.1, ih hf.2 fun ns hns => ?_⟩
      obtain ⟨ms, hms, rfl⟩ := List.mem_map.mp hns
      rw [List.all_eq_true]
      exact fun m hm => List.all_eq_true.mp (hr ms hms) m (List.mem_of_mem_tail hm)
    · exact hone _ rest hf hr

lemma ofBranches {branches : List (List Node)} (h : ∀ ns ∈ branches, ns.all P) :
    (ofBranches branches).all P := by
  cases branches with
  | nil => rfl
  | cons first rest =>
    obtain ⟨hf, hr⟩ := List.forall_mem_cons.mp h
    cases rest with
    | nil => exact hf
    | cons second rest => exact hP.partsOfChoice hf hr

end IsStructural

lemma isStructural_isBasic : IsStructural isBasic :=
  ⟨rfl, fun _ => rfl, fun _ _ => rfl, fun _ _ => rfl⟩

end Node

/-- A regular expression that begins with an anchor and is made of basic parts. -/
theorem compile_of_adds {flags : Flags} {source : String} {ts : List Token} {nodes : List Node}
    {n : Nat} (hv : flags.verbose = false) (hc : flags.conflict = false)
    (hl : Lexes source.toList ts)
    (ha : (Parser.start flags).Adds ts (.anchor .textStart :: nodes) n)
    (hb : nodes.all Node.isBasic) :
    compile flags source =
      .ok { source, flags, root := .ofParts (.anchor .textStart :: nodes), groupCount := n,
            names := [] } := by
  obtain ⟨parts, widths, hrun, hnodes, hcount⟩ := ha
  have hroot : ((Parser.start flags).grown parts widths).frame.node =
      .ofParts (.anchor .textStart :: nodes) := by
    have hb := Parser.branch_grown (Parser.start flags) parts widths
    rw [hnodes] at hb
    exact congrArg Node.ofParts hb
  have hbasic : (Node.ofParts (.anchor .textStart :: nodes)).isBasic := by
    rw [Node.isStructural_isBasic.ofParts, List.all_cons, hb]
    rfl
  obtain ⟨hpossessive, -, hasks⟩ := Node.isBasic_facts hbasic
  have hlength : ((Parser.start flags).grown parts widths).groups.length = n := by
    rw [Parser.grown_groups, ← hcount]
    rfl
  have hflags : ((Parser.start flags).grown parts widths).frame.flags = flags := rfl
  have hfirst : firstOf flags (.ofParts (.anchor .textStart :: nodes)) = none := rfl
  rw [compile, hv, hl.tokens_eq, hrun]
  change ofParser source ((Parser.start flags).grown parts widths) = _
  unfold ofParser
  simp only [hroot, hlength, hflags, hfirst, hc, roomOf, hpossessive, hasks]
  rfl

end ActionRouting.Regex
