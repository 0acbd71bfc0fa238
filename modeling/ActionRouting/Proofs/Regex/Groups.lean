import Mathlib.Data.List.Induction
import ActionRouting.Regex.Parser
import ActionRouting.Proofs.Regex.Openings

/-! The capture groups of a regular expression are numbered in the order of their opening
parentheses, and each opening parenthesis is closed. -/
namespace ActionRouting.Regex

/-- Where the capture groups of a regular expression open, as it is read, and their names. -/
def openings (verbose : Bool) (cs : List Char) : List (Nat × Option String) :=
  captures (parensOf (located verbose cs))

/-- The names among those of capture groups, with the numbers of their groups, which begin at
`k`. -/
def namesFrom (k : Nat) (names : List (Option String)) : List (String × Nat) :=
  (names.zipIdx k).filterMap fun n => n.1.map (·, n.2)

lemma namesFrom_append (k : Nat) (as bs : List (Option String)) :
    namesFrom k (as ++ bs) = namesFrom k as ++ namesFrom (k + as.length) bs := by
  simp [namesFrom, List.zipIdx_append]

lemma find?_namesFrom (names : List (Option String)) (k i : Nat) :
    ((namesFrom k names).find? (·.2 == k + i)).map (·.1) = (names[i]?).join := by
  induction names generalizing k i with
  | nil => rfl
  | cons name names ih =>
    cases i with
    | zero =>
      cases name with
      | some name => simp [namesFrom]
      | none =>
        have hnone : (namesFrom (k + 1) names).find? (·.2 == k) = none := by
          simp only [List.find?_eq_none, namesFrom, List.mem_filterMap]
          rintro ⟨s, j⟩ ⟨⟨o, m⟩, hm, hj⟩
          have hle := List.le_snd_of_mem_zipIdx hm
          obtain ⟨t, rfl, ht⟩ := Option.map_eq_some_iff.mp hj
          cases ht
          simp only [beq_iff_eq]
          simp only at hle
          omega
        simpa [namesFrom] using hnone
    | succ i =>
      have h := ih (k + 1) i
      have hk : k + 1 + i = k + (i + 1) := by omega
      rw [hk] at h
      cases name with
      | none => simpa [namesFrom] using h
      | some name => simpa [namesFrom] using h

/-- What reading some parentheses does to the groups of a parser. -/
structure Parser.Counts (p q : Parser) (ps : List Paren) : Prop where
  groups : q.groups.length = p.groups.length + (ps.filterMap Paren.capture?).length
  names : q.names = p.names ++ namesFrom (p.groups.length + 1) (ps.filterMap Paren.capture?)
  outer : q.outer.length + ps.count .close = p.outer.length + ps.countP (· ≠ .close)

namespace Parser

variable {p q r : Parser}

lemma Counts.of_eq (hg : q.groups = p.groups) (hn : q.names = p.names) (ho : q.outer = p.outer) :
    Counts p q [] := by
  constructor <;> simp [hg, hn, ho, namesFrom]

lemma Counts.trans {ps qs : List Paren} (h : Counts p q ps) (h' : Counts q r qs) :
    Counts p r (ps ++ qs) := by
  constructor
  · have := h.groups
    have := h'.groups
    simp only [List.filterMap_append, List.length_append]
    omega
  · rw [h'.names, h.names, h.groups, List.filterMap_append, namesFrom_append, List.append_assoc,
      Nat.add_right_comm]
  · have := h.outer
    have := h'.outer
    simp only [List.count_append, List.countP_append]
    omega

lemma enter_eq_ok {opening : Opening} {flags : Flags} (h : p.enter opening flags = .ok q) :
    q = { p with frame := { opening, flags }, outer := p.frame :: p.outer } := by
  unfold enter at h
  split at h
  · cases h
  · cases h
    rfl

lemma enter_counts {opening : Opening} {flags : Flags} (h : p.enter opening flags = .ok q) :
    Counts p q [.plain] := by
  cases enter_eq_ok h
  constructor <;> simp [namesFrom, Paren.capture?, List.filterMap_cons]

lemma enterIf_counts {index : Nat} (h : p.enterIf index = .ok q) : Counts p q [.plain] := by
  unfold enterIf at h
  split at h
  · exact enter_counts h
  · split at h
    · cases h
    · split at h
      · cases h
      · exact enter_counts h

/-- A reference to a group that is complete is one more part. -/
lemma refer_eq_ok {index : Nat} (h : p.refer index = .ok q) :
    q = p.push (.again index p.frame.flags.casing) := by
  unfold refer at h
  split at h
  · cases h
  · cases h
  · split at h
    · cases h
    · exact (Except.ok.inj h).symm

lemma refer_counts {index : Nat} (h : p.refer index = .ok q) : Counts p q [] := by
  obtain rfl := refer_eq_ok h
  exact .of_eq rfl rfl rfl

lemma blame_eq (p : Parser) (e : Error) : ∃ late, p.blame e = { p with late } := by
  unfold blame
  split
  · exact ⟨_, rfl⟩
  · exact ⟨_, rfl⟩
  · exact ⟨p.late, rfl⟩

/-- A repetition takes the place of the latest part. -/
lemma repeatLast_eq_ok {mode : Mode} {lo : Nat} {hi : Option Nat}
    (h : p.repeatLast mode lo hi = .ok q) : ∃ part rest late, p.frame.parts = part :: rest ∧
      q = { p with late, frame :=
        { p.frame with parts := .single (.ofRepetition mode lo hi part.node) :: rest } } := by
  have hb : ∃ late, (if p.frame.flags.template then p.blame .repeatedInTemplate else p) =
      { p with late } := by
    split
    · exact blame_eq p _
    · exact ⟨p.late, rfl⟩
  obtain ⟨late, hb⟩ := hb
  unfold repeatLast at h
  rw [hb] at h
  dsimp only at h
  split at h
  case h_1 => cases h
  case h_2 => cases h
  case h_3 => cases h
  case h_4 => cases h
  case h_5 part rest _ _ _ hparts =>
    cases h
    exact ⟨part, rest, late, hparts, rfl⟩

lemma repeatLast_counts {mode : Mode} {lo : Nat} {hi : Option Nat}
    (h : p.repeatLast mode lo hi = .ok q) : Counts p q [] := by
  obtain ⟨part, rest, late, -, rfl⟩ := repeatLast_eq_ok h
  exact .of_eq rfl rfl rfl

lemma nextBranch_counts (h : p.nextBranch = .ok q) : Counts p q [] := by
  unfold nextBranch at h
  split at h
  · cases h
  · cases h
    exact .of_eq rfl rfl rfl

lemma checkLookbehind_eq (p : Parser) (width : Width) :
    ∃ late, p.checkLookbehind width = { p with late } := by
  unfold checkLookbehind
  split
  · exact blame_eq p _
  · split
    · exact blame_eq p _
    · exact ⟨p.late, rfl⟩

lemma leave_counts (h : p.leave = .ok q) : Counts p q [.close] := by
  unfold leave at h
  split at h
  · cases h
  · next frame outer ho =>
    have hq : q.groups.length = p.groups.length ∧ q.names = p.names ∧ q.outer = outer := by
      dsimp only at h
      split at h
      case h_1 => cases h
      case h_6 =>
        obtain ⟨late, hl⟩ :=
          checkLookbehind_eq { p with frame, outer } (p.frame.node.width p.groups)
        rw [hl] at h
        cases h
        exact ⟨rfl, rfl, rfl⟩
      all_goals
        cases h
        simp [push, pushPlain]
    constructor <;> simp [hq, ho, namesFrom, Paren.capture?, List.filterMap_cons]

lemma openCapture_counts {name : Option String} (h : p.openCapture name = .ok q) :
    Counts p q [.capture name] := by
  unfold openCapture at h
  dsimp only at h
  split at h
  · cases enter_eq_ok h
    constructor <;> simp [namesFrom, Paren.capture?]
  · split at h
    · cases h
    · cases enter_eq_ok h
      constructor <;> simp [namesFrom, Paren.capture?]

/-- What reading one token does to the groups. -/
theorem step_counts {t : Token} (h : p.step t = .ok q) : Counts p q t.paren?.toList := by
  cases t with
  | char | set | dot | caret | dollar | textStart | textEnd | boundary | comment =>
    cases h
    exact .of_eq rfl rfl rfl
  | quantifier mode lo hi => exact repeatLast_counts h
  | bar => exact nextBranch_counts h
  | openCapture name => exact openCapture_counts h
  | openPlain on off => exact enter_counts h
  | openLook behind negated => exact enter_counts h
  | openAtomic => exact enter_counts h
  | openIfGroup index =>
    have hc := enterIf_counts h
    exact ⟨hc.groups, hc.names, hc.outer⟩
  | openIfNamed name =>
    simp only [step] at h
    split at h
    · exact enterIf_counts h
    · cases h
  | close => exact leave_counts h
  | flags on =>
    simp only [step] at h
    split at h
    · cases h
      exact .of_eq rfl rfl rfl
    · cases h
  | reference index => exact refer_counts h
  | namedReference name =>
    simp only [step] at h
    split at h
    · exact refer_counts h
    · cases h
  | bad e => cases h

/-- What reading some tokens does to the groups. None of them is at fault. -/
theorem run_counts {ts : List Token} (h : p.run ts = .ok q) :
    Counts p q (ts.filterMap Token.paren?) ∧ ∀ e, .bad e ∉ ts := by
  induction ts generalizing p with
  | nil =>
    cases h
    exact ⟨.of_eq rfl rfl rfl, by simp⟩
  | cons t ts ih =>
    simp only [run, List.foldlM_cons] at h
    cases ht : p.step t with
    | error e =>
      rw [ht] at h
      cases h
    | ok p' =>
      rw [ht] at h
      obtain ⟨hc, hb⟩ := ih h
      refine ⟨?_, ?_⟩
      · have hs := (step_counts ht).trans hc
        rwa [show t.paren?.toList ++ ts.filterMap Token.paren? =
          (t :: ts).filterMap Token.paren? by cases hp : t.paren? <;> simp [hp]] at hs
      · intro e hm
        rcases List.mem_cons.mp hm with rfl | hm
        · cases ht
        · exact hb e hm

end Parser

/-- What a complete parse holds, and that a search is prepared for it. -/
lemma ofParser_eq_ok {source : String} {p : Parser} {r : Regex} (h : ofParser source p = .ok r) :
    p.outer = [] ∧ ∃ room shortest least, roomOf p.frame.node least = (room, shortest) ∧
      r = ⟨source, p.frame.flags, p.frame.node, p.groups.length, p.names,
        firstOf p.frame.flags p.frame.node, room, shortest, p.frame.node.asksOwnGroup⟩ := by
  unfold ofParser at h
  dsimp only at h
  split at h
  · cases h
  · next ho =>
    split at h
    · cases h
    · split at h
      · cases h
      · split at h
        · cases h
        · exact ⟨by simpa using ho, _, _, _, rfl, (Except.ok.inj h).symm⟩

lemma compile_eq_ok {flags : Flags} {source : String} {r : Regex}
    (h : compile flags source = .ok r) :
    ∃ p : Parser, (Parser.start flags).run (tokens flags.verbose source.toList) = .ok p ∧
      ofParser source p = .ok r := by
  unfold compile at h
  cases hp : (Parser.start flags).run (tokens flags.verbose source.toList) with
  | error e =>
    rw [hp] at h
    cases h
  | ok p =>
    rw [hp] at h
    exact ⟨p, rfl, h⟩

/-- A regular expression that is accepted was read to its end. -/
lemma compile_run {flags : Flags} {source : String} {r : Regex}
    (h : compile flags source = .ok r) :
    ∃ p : Parser, (Parser.start flags).run (tokens flags.verbose source.toList) = .ok p ∧
      p.outer = [] ∧ r.groupCount = p.groups.length ∧ r.names = p.names := by
  obtain ⟨p, hp, hr⟩ := compile_eq_ok h
  obtain ⟨ho, _, _, _, -, rfl⟩ := ofParser_eq_ok hr
  exact ⟨p, hp, ho, rfl, rfl⟩

lemma map_parensOf (verbose : Bool) (cs : List Char) :
    (parensOf (located verbose cs)).map (·.2) = (tokens verbose cs).filterMap Token.paren? := by
  rw [← map_located, parensOf, List.map_filterMap, List.filterMap_map]
  congr 1
  funext t
  cases h : t.2.paren? <;> simp [h]

lemma map_captures (ps : List (Nat × Paren)) :
    (captures ps).map (·.2) = (ps.map (·.2)).filterMap Paren.capture? := by
  rw [captures, List.map_filterMap, List.filterMap_map]
  congr 1
  funext t
  cases h : t.2.capture? <;> simp [h]

/-- The capture groups of a regular expression are those that its text opens, in order. -/
theorem compile_groups {flags : Flags} {source : String} {r : Regex}
    (h : compile flags source = .ok r) :
    r.groupCount = (openings flags.verbose source.toList).length ∧
      ∀ i, r.nameOf? (i + 1) = ((openings flags.verbose source.toList)[i]?).bind (·.2) := by
  obtain ⟨p, hp, -, hcount, hnames⟩ := compile_run h
  have hc := (Parser.run_counts hp).1
  rw [← map_parensOf] at hc
  have hs : (openings flags.verbose source.toList).map (·.2) =
      ((parensOf (located flags.verbose source.toList)).map (·.2)).filterMap Paren.capture? :=
    map_captures _
  refine ⟨?_, fun i => ?_⟩
  · have := hc.groups
    rw [← hs, List.length_map] at this
    simpa [hcount, Parser.start] using this
  · have hn := hc.names
    rw [← hs] at hn
    simp only [Parser.start, List.nil_append, List.length_nil, Nat.zero_add] at hn
    rw [nameOf?, hnames, hn, Nat.add_comm, find?_namesFrom, List.getElem?_map]
    cases (openings flags.verbose source.toList)[i]? <;> rfl

/-- A regular expression closes what it opens, and none of its tokens is at fault. -/
theorem compile_balanced {flags : Flags} {source : String} {r : Regex}
    (h : compile flags source = .ok r) :
    (parensOf (located flags.verbose source.toList)).countP (·.2 = .close) =
      (parensOf (located flags.verbose source.toList)).countP (·.2 ≠ .close) ∧
      ∀ e, .bad e ∉ tokens flags.verbose source.toList := by
  obtain ⟨p, hp, ho, -⟩ := compile_run h
  obtain ⟨hc, hb⟩ := Parser.run_counts hp
  refine ⟨?_, hb⟩
  have := hc.outer
  rw [← map_parensOf, ho, List.count_eq_countP, List.countP_map, List.countP_map] at this
  simpa [Parser.start, Function.comp_def, beq_eq_decide] using this

/-- The parentheses of a tame regular expression are those that no backslash hides. -/
theorem parensOf_located {flags : Flags} {source : String} {r : Regex}
    (h : compile flags source = .ok r) (hv : flags.verbose = false) (ht : IsTame source.toList) :
    parensOf (located flags.verbose source.toList) = parens source.toList := by
  have hb := (compile_balanced h).2
  rw [hv] at hb ⊢
  exact parensOf_locatedFrom (Nat.le_refl _) (by simp) ht hb

/-- A parenthesised regular expression without a closing parenthesis inside holds no group, and is a
capture group itself unless its parenthesis begins another kind. -/
theorem compile_single {flags : Flags} {body : List Char} {r : Regex}
    (h : compile flags (String.ofList ('(' :: body ++ [')'])) = .ok r)
    (hv : flags.verbose = false) (hb : ')' ∉ body) (ht : IsTame ('(' :: body ++ [')'])) :
    isSilentFrom false body ∧
      r.groupCount = (opening (body ++ [')'])).capture?.toList.length := by
  have hp := parensOf_located h hv (by simpa using ht)
  have hbal := (compile_balanced h).1
  have hcount := (compile_groups h).1
  rw [openings] at hcount
  rw [hp, String.toList_ofList, List.cons_append, parens_open] at hbal hcount
  have hne := opening_ne_close (body ++ [')'])
  rw [List.countP_cons_of_neg (by simpa using hne), List.countP_cons_of_pos (by simpa)] at hbal
  have hs := (silent_of_countP false hb).2 hbal
  refine ⟨hs, ?_⟩
  have hclose : parens (body ++ [')']) = [(1, .close)] := parensFrom_silent hs _
  rw [hcount, hclose]
  rw [captures_cons, captures_cons]
  cases ho : (opening (body ++ [')'])).capture? <;> rfl

end ActionRouting.Regex
