import ActionRouting.Proofs.Path.Whole
import ActionRouting.Proofs.Regex.Anchored
import ActionRouting.Proofs.Regex.Growth
import ActionRouting.Proofs.Regex.Items
import ActionRouting.Proofs.Regex.Openings

/-! Regular expressions whose groups take whole runs of characters other than slashes, no two of
them between the same slashes. Such an expression finds its own filled text, and each group takes
what it was filled with: what comes before the next slash leaves it no other choice. -/
namespace ActionRouting.Regex

open Text

/-- The marks of ASCII that stand for themselves behind a backslash where a text is filled: all but
the low line, and without those that would begin a query or a fragment. -/
def marks : List Char := "!\"$%&'()*+,-./:;<=>@[\\]^`\x7b|\x7d~".toList

/-- A group that takes a run of characters other than slashes. -/
def segmentBody : List Char := "[^/]+".toList

namespace Item

/-- A character that stands for itself, an escaped mark, or a group for a run of characters other
than slashes, with a name of letters if any. -/
def isSegmental : Item → Bool
  | char c => isLetter c
  | escaped c => marks.contains c
  | group name body =>
    (name.all fun name => isIdentifier name && name.all isWord) && body == segmentBody

end Item

/-- No two groups stand between the same slashes. The start and the end of the text count as
slashes; `free` says that no group stands behind the last one. -/
def parted : Bool → List Item → Bool
  | _, [] => true
  | free, .char c :: items => parted (free || c == '/') items
  | free, .escaped c :: items => parted (free || c == '/') items
  | free, .group _ _ :: items => free && parted false items

/-! ### How the text is read -/

/-- A text is read as some tokens, none of which begins with a blank or a remark. -/
inductive Tokenizes : List Bool → List Char → List Token → Prop
  | nil {groups : List Bool} : Tokenizes groups [] []
  | cons {groups : List Bool} {c : Char} {cs rest : List Char} {t : Token} {ts : List Token} :
      readToken c cs = (t, rest) → rest.length ≤ cs.length → (isAsciiBlank c || c == '#') = false →
      Tokenizes (verbosity t groups) rest ts → Tokenizes groups (c :: cs) (t :: ts)

lemma Tokenizes.tokensFrom_eq {groups : List Bool} {cs : List Char} {ts : List Token}
    (h : Tokenizes groups cs ts) {fuel : Nat} (hf : cs.length ≤ fuel) :
    tokensFrom fuel groups cs = ts := by
  induction h generalizing fuel with
  | nil => cases fuel <;> rfl
  | @cons groups c cs rest t ts hr hl hc _ ih =>
    cases fuel with
    | zero => simp at hf
    | succ fuel =>
      rw [Bool.or_eq_false_iff] at hc
      rw [tokensFrom, hc.1, hc.2, Bool.and_false, if_neg Bool.false_ne_true,
        if_neg Bool.false_ne_true, hr]
      have hle : rest.length ≤ fuel := by
        rw [List.length_cons] at hf
        omega
      exact congrArg _ (ih hle)

def Item.tokens : Item → List Token
  | char c => [.char c.toNat]
  | escaped c => [.char c.toNat]
  | group name _ =>
    [.openCapture (name.map String.ofList), .set true [.char 47], .quantifier .greedy 1 none,
      .close]

def Ending.tokens : Ending → List Token
  | bare => [.dollar]
  | _ => [.char 47, .quantifier .greedy 0 (some 1), .dollar]

lemma le_of_isLetter {c : Char} (hc : Item.isLetter c) : 45 ≤ c.toNat := by
  change (c.isUpper || c.isLower || c.isDigit || c == '_' || c == '-' || c == '/') = true at hc
  simp only [Bool.or_eq_true, beq_iff_eq, isUpper_iff, isLower_iff, isDigit_iff] at hc
  rcases hc with ((((hc | hc) | hc) | rfl) | rfl) | rfl
  · omega
  · omega
  · omega
  all_goals decide

lemma readToken_letter {c : Char} (hc : Item.isLetter c) (cs : List Char) :
    readToken c cs = (.char c.toNat, cs) := by
  have hne (d : Char) (hd : Item.isLetter d = false) : c ≠ d :=
    Template.Part.isLetter_ne hc hd
  have := hne '\\' (by decide)
  have := hne '[' (by decide)
  have := hne '(' (by decide)
  have := hne '\x7b' (by decide)
  have := hne '*' (by decide)
  have := hne '+' (by decide)
  have := hne '?' (by decide)
  have := hne '.' (by decide)
  have := hne '^' (by decide)
  have := hne '$' (by decide)
  have := hne '|' (by decide)
  have := hne ')' (by decide)
  unfold readToken
  split <;> first | contradiction | rfl

/-- A mark is no letter, no digit and no blank, and no letter stands for it behind a backslash. -/
lemma marks_facts : marks.all fun c => (control? c).isNone && (category? c).isNone &&
    !c.isAlphanum && !isWord c && !isBlank c := by decide

lemma readEscape_mark {c : Char} (hc : marks.contains c) (cs : List Char) :
    readEscape (c :: cs) = .ok (.char c.toNat, cs) := by
  have h := List.all_eq_true.mp marks_facts c (List.contains_iff_mem.mp hc)
  simp only [Bool.and_eq_true, Bool.not_eq_true', Option.isNone_iff_eq_none] at h
  obtain ⟨⟨⟨⟨hcontrol, hcategory⟩, halnum⟩, -⟩, -⟩ := h
  have hne (d : Char) (hd : d.isAlphanum = true) : c ≠ d := by
    rintro rfl
    rw [hd] at halnum
    cases halnum
  rw [Char.isAlphanum, Bool.or_eq_false_iff] at halnum
  unfold readEscape
  simp only [hcontrol, hcategory]
  simp [hne, halnum]

lemma isSeen_of_isSegmental {i : Item} (h : i.isSegmental) : i.isSeen := by
  cases i with
  | char c => exact h
  | escaped c =>
    have h := List.all_eq_true.mp marks_facts c (List.contains_iff_mem.mp h)
    simp only [Bool.and_eq_true, Bool.not_eq_true'] at h
    simp [Item.isSeen, h]
  | group name body =>
    simp only [Item.isSegmental, Bool.and_eq_true, beq_iff_eq] at h
    obtain ⟨hname, rfl⟩ := h
    cases name with
    | none => decide
    | some name =>
      simp only [Option.all_some, Bool.and_eq_true] at hname
      have hne : name ≠ [] := by
        rintro rfl
        exact absurd hname.1 (by decide)
      have hnests : nests false segmentBody := by decide
      simp [Item.isSeen, hne, hname.2, hnests]

lemma readToken_group {name : Option (List Char)} {body : List Char}
    (hi : (Item.group name body).isSeen) (hname : name.all isIdentifier) (rest : List Char) :
    readToken '(' ((Item.opening name).tail ++ body ++ ')' :: rest) =
      (.openCapture (name.map String.ofList), body ++ ')' :: rest) := by
  cases name with
  | none =>
    simp only [Item.isSeen, Bool.and_eq_true, bne_iff_ne] at hi
    have hhead : (body ++ ')' :: rest).head? ≠ some '?' := by
      cases body with
      | nil => simp
      | cons c body => simpa using hi.2
    change orBad (readOpening (body ++ ')' :: rest)) = _
    rw [readOpening_of_ne hhead]
    rfl
  | some name =>
    simp only [Item.isSeen, Bool.and_eq_true, Bool.not_eq_true', List.all_eq_true] at hi
    have hclose : ∀ c ∈ name, decide (c ≠ '>') = true := by
      intro c hc
      refine decide_eq_true fun he => ?_
      rw [he] at hc
      exact absurd (hi.1.2 _ hc) (by decide)
    have htake : (name ++ '>' :: (body ++ ')' :: rest)).takeWhile (· ≠ '>') = name := by
      rw [List.takeWhile_append_of_pos hclose, List.takeWhile_cons_of_neg (by simp),
        List.append_nil]
    have hdrop : (name ++ '>' :: (body ++ ')' :: rest)).dropWhile (· ≠ '>') =
        '>' :: (body ++ ')' :: rest) := by
      rw [List.dropWhile_append_of_pos hclose, List.dropWhile_cons_of_neg (by simp)]
    have hsplit : (Item.opening (some name)).tail ++ body ++ ')' :: rest =
        '?' :: 'P' :: '<' :: (name ++ '>' :: (body ++ ')' :: rest)) := by
      simp [Item.opening]
    rw [Option.all_some] at hname
    rw [hsplit, readToken, readOpening, readGroupName]
    simp only [htake, hdrop, hname]
    rfl

lemma all_isIdentifier_of_isSegmental {name : Option (List Char)} {body : List Char}
    (hi : (Item.group name body).isSegmental) : name.all isIdentifier := by
  simp only [Item.isSegmental, Bool.and_eq_true] at hi
  cases name with
  | none => rfl
  | some name =>
    simp only [Option.all_some, Bool.and_eq_true] at hi
    exact hi.1.1

variable {v : Bool} {cs : List Char} {ts : List Token}

lemma tokenizes_item {i : Item} (hi : i.isSegmental) (h : Tokenizes [v] cs ts) :
    Tokenizes [v] (i.write ++ cs) (i.tokens ++ ts) := by
  cases i with
  | char c =>
    have hblank : (isAsciiBlank c || c == '#') = false := by
      have := le_of_isLetter hi
      have hspace : c ≠ ' ' := Template.Part.isLetter_ne hi (by decide)
      have hhash : c ≠ '#' := Template.Part.isLetter_ne hi (by decide)
      simp [isAsciiBlank, hspace, hhash]
      omega
    exact .cons (readToken_letter hi cs) (Nat.le_refl _) hblank h
  | escaped c =>
    refine .cons ?_ (Nat.le_succ _) rfl h
    change orBad (readEscape (c :: cs)) = _
    rw [readEscape_mark hi]
    rfl
  | group name body =>
    have hbody : body = segmentBody := by
      simp only [Item.isSegmental, Bool.and_eq_true, beq_iff_eq] at hi
      exact hi.2
    rw [Item.write_group]
    refine .cons (readToken_group (isSeen_of_isSegmental hi)
      (all_isIdentifier_of_isSegmental hi) cs) (by simp) rfl ?_
    subst hbody
    refine .cons (t := .set true [.char 47]) rfl (by simp) rfl
      (.cons (t := .quantifier .greedy 1 none) rfl (by simp) rfl
        (.cons (t := .close) rfl (by simp) rfl h))

lemma tokenizes_ending (ending : Ending) : Tokenizes [v] ending.write ending.tokens := by
  have hdollar : Tokenizes [v] ['$'] [.dollar] := .cons rfl (Nat.le_refl _) rfl .nil
  have hquery : Tokenizes [v] ['?', '$'] [.quantifier .greedy 0 (some 1), .dollar] :=
    .cons rfl (Nat.le_refl _) rfl hdollar
  cases ending with
  | bare => exact hdollar
  | slash => exact .cons rfl (Nat.le_refl _) rfl hquery
  | escapedSlash => exact .cons rfl (Nat.le_succ _) rfl hquery

/-- The tokens of a text are those of its items and its ending. -/
theorem tokens_sourceOf {items : List Item} (hi : ∀ i ∈ items, i.isSegmental) (ending : Ending)
    (v : Bool) : tokens v (sourceOf items ending) =
      .caret :: (items.flatMap Item.tokens ++ ending.tokens) := by
  have hitems : Tokenizes [v] (items.flatMap Item.write ++ ending.write)
      (items.flatMap Item.tokens ++ ending.tokens) := by
    induction items with
    | nil => exact tokenizes_ending ending
    | cons i items ih =>
      obtain ⟨hfirst, hrest⟩ := List.forall_mem_cons.mp hi
      rw [List.flatMap_cons, List.flatMap_cons, List.append_assoc, List.append_assoc]
      exact tokenizes_item hfirst (ih hrest)
  have h : Tokenizes [v] (sourceOf items ending) _ := .cons rfl (Nat.le_refl _) rfl hitems
  exact h.tokensFrom_eq (Nat.le_refl _)

/-! ### What the text is compiled to -/

section Nodes

variable (flags : Flags)

def charOf (c : Char) : Node := .chars ⟨false, [.char c.toNat], flags.casing, flags.ascii⟩

def noSlash : CharSet := ⟨true, [.char 47], flags.casing, flags.ascii⟩

/-- The expressions that some items are compiled to, when `count` capture groups stand before. -/
def itemNodes : Nat → List Item → List Node
  | _, [] => []
  | count, .char c :: items => charOf flags c :: itemNodes count items
  | count, .escaped c :: items => charOf flags c :: itemNodes count items
  | count, .group _ _ :: items =>
    .group (count + 1) (.ofParts [.loop true 1 none (.chars (noSlash flags))]) ::
      itemNodes (count + 1) items

/-- The expression for the end of a text, or of a line where lines count. -/
def endOf : Node := .anchor (if flags.multiLine then .lineEnd else .finalLineEnd)

def Ending.nodes : Ending → List Node
  | bare => [endOf flags]
  | _ => [.loop true 0 (some 1) (charOf flags '/'), endOf flags]

end Nodes

section Growth

variable {p q : Parser} {flags : Flags}

lemma grows_char {n : Nat} (h : p.run [.char n] = .ok q) :
    Parser.Grows p q [.chars ⟨false, [.char n], p.frame.flags.casing, p.frame.flags.ascii⟩] := by
  cases Parser.run_singleton_eq_ok h
  exact Parser.grows_push _ _

lemma grows_item {i : Item} (h : p.run i.tokens = .ok q) (items : List Item)
    (hf : p.frame.flags = flags) :
    ∃ nodes, Parser.Grows p q nodes ∧ q.groups.length = p.groups.length + i.groupCount ∧
      itemNodes flags p.groups.length (i :: items) =
        nodes ++ itemNodes flags q.groups.length items := by
  have hcount := (Parser.run_counts h).1.groups
  subst hf
  cases i with
  | char c =>
    have hlen : q.groups.length = p.groups.length := hcount
    refine ⟨_, grows_char h, hcount, ?_⟩
    rw [hlen]
    rfl
  | escaped c =>
    have hlen : q.groups.length = p.groups.length := hcount
    refine ⟨_, grows_char h, hcount, ?_⟩
    rw [hlen]
    rfl
  | group name body =>
    have hlen : q.groups.length = p.groups.length + 1 := by
      rw [hcount]
      cases name <;> rfl
    obtain ⟨p₁, h₁, h⟩ := Parser.run_cons_eq_ok h
    obtain ⟨p₂, h₂, h⟩ := @Parser.run_append_eq_ok _ _
      [.set true [.char 47], .quantifier .greedy 1 none] _ h
    obtain ⟨-, hframe, -⟩ := Parser.openCapture_eq_ok h₁
    have hloop : Parser.Grows p₁ p₂ [.loop true 1 none (.chars (noSlash p.frame.flags))] := by
      obtain ⟨p₃, h₃, h₂⟩ := Parser.run_cons_eq_ok h₂
      cases h₃
      have := Parser.grows_repeated (Parser.run_singleton_eq_ok h₂)
      rwa [hframe] at this
    have hnode : p₂.frame.node = .ofParts [.loop true 1 none (.chars (noSlash p.frame.flags))] := by
      rw [Frame.node, Frame.nodes, hloop.branches, hloop.branch, hframe]
      rfl
    have hgroup := Parser.grows_capture h₁ hloop.outer hloop.opening (Parser.run_singleton_eq_ok h)
    rw [hnode] at hgroup
    refine ⟨_, hgroup, hlen, ?_⟩
    rw [hlen]
    rfl

lemma grows_items {items : List Item} (h : p.run (items.flatMap Item.tokens) = .ok q)
    (hf : p.frame.flags = flags) :
    Parser.Grows p q (itemNodes flags p.groups.length items) ∧
      q.groups.length = p.groups.length + groupsOf items := by
  induction items generalizing p with
  | nil =>
    cases h
    exact ⟨.refl _, rfl⟩
  | cons i items ih =>
    rw [List.flatMap_cons] at h
    obtain ⟨p₁, h₁, h⟩ := Parser.run_append_eq_ok h
    obtain ⟨nodes, hgrows, hlen, hnodes⟩ := grows_item h₁ items hf
    obtain ⟨hrest, hcount⟩ := ih h (hgrows.flags.trans hf)
    refine ⟨?_, ?_⟩
    · rw [hnodes]
      exact hgrows.trans hrest
    · rw [hcount, hlen, groupsOf, Nat.add_assoc, Nat.add_comm i.groupCount]

lemma grows_ending {ending : Ending} (h : p.run ending.tokens = .ok q)
    (hf : p.frame.flags = flags) : Parser.Grows p q (ending.nodes flags) := by
  subst hf
  have hdollar {p₁ : Parser} (h₁ : p₁.run [.dollar] = .ok q)
      (hf : p₁.frame.flags = p.frame.flags) : Parser.Grows p₁ q [endOf p.frame.flags] := by
    cases Parser.run_singleton_eq_ok h₁
    rw [← hf]
    exact Parser.grows_push _ _
  have hslash (h₀ : p.run [.char 47, .quantifier .greedy 0 (some 1), .dollar] = .ok q) :
      Parser.Grows p q (Ending.slash.nodes p.frame.flags) := by
    obtain ⟨p₁, h₁, hrest⟩ := Parser.run_cons_eq_ok h₀
    obtain ⟨p₂, h₂, h₃⟩ := Parser.run_cons_eq_ok hrest
    cases h₁
    have hloop := Parser.grows_repeated h₂
    exact hloop.trans (hdollar h₃ hloop.flags)
  cases ending with
  | bare => exact hdollar h rfl
  | slash => exact hslash h
  | escapedSlash => exact hslash h

end Growth

lemma isBasic_itemNodes (flags : Flags) (count : Nat) (items : List Item) :
    (itemNodes flags count items).all Node.isBasic := by
  induction items generalizing count with
  | nil => rfl
  | cons i items ih => cases i <;> exact ih _

/-- A text that is accepted is compiled to its items and its ending, and a search for it looks at
every place. -/
theorem root_of_compile {flags : Flags} {items : List Item} {ending : Ending} {r : Regex}
    (hi : ∀ i ∈ items, i.isSegmental)
    (h : compile flags (String.ofList (sourceOf items ending)) = .ok r) :
    r.root = .ofParts (.anchor (if flags.multiLine then .lineStart else .textStart) ::
        (itemNodes flags 0 items ++ ending.nodes flags)) ∧
      r.groupCount = groupsOf items ∧ r.IsDirect := by
  obtain ⟨p, hrun, -, hroot, hcount, hfirst, ⟨least, hroom⟩, htrial⟩ := compile_root h
  rw [String.toList_ofList, tokens_sourceOf hi] at hrun
  obtain ⟨p₁, h₁, hrun⟩ := Parser.run_cons_eq_ok hrun
  obtain ⟨p₂, h₂, h₃⟩ := Parser.run_append_eq_ok hrun
  cases h₁
  obtain ⟨hitems, hgroups⟩ := grows_items h₂ rfl
  have hend := grows_ending h₃ hitems.flags
  have hgrows := (Parser.grows_push (.start flags) _).trans (hitems.trans hend)
  have hnode : r.root = .ofParts (.anchor (if flags.multiLine then .lineStart else .textStart) ::
      (itemNodes flags 0 items ++ ending.nodes flags)) := by
    rw [hroot, Frame.node, Frame.nodes, hgrows.branches, hgrows.branch]
    rfl
  have hbasic : r.root.isBasic := by
    rw [hnode, Node.isStructural_isBasic.ofParts, List.all_cons, List.all_append, isBasic_itemNodes]
    cases ending <;> rfl
  obtain ⟨hpossessive, -, hasks⟩ := Node.isBasic_facts hbasic
  have hcounted := (Parser.run_counts h₃).1.groups
  refine ⟨hnode, ?_, ?_, ?_, ?_, ?_⟩
  · rw [hcount, hcounted, hgroups]
    cases ending <;> exact Nat.zero_add _
  · rw [hfirst, hnode]
    rfl
  · rw [roomOf, hpossessive] at hroom
    exact congrArg Prod.fst hroom
  · rw [roomOf, hpossessive] at hroom
    exact congrArg Prod.snd hroom
  · rw [htrial, hasks]

end ActionRouting.Regex
