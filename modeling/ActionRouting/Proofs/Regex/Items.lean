import ActionRouting.Proofs.Text.Percent
import ActionRouting.Proofs.Text.Scan
import ActionRouting.Regex.Template

/-! Regular expressions that are written as characters, escaped characters and capture groups, from
the start of a text to its end. They are filled item by item. -/
namespace ActionRouting.Regex

open Text

/-- A character that stands for itself, a character behind a backslash, or a capture group. -/
inductive Item
  | char (c : Char)
  | escaped (c : Char)
  | group (name : Option (List Char)) (body : List Char)

/-- What stands before the end of a text: nothing, or a slash that may be missing. -/
inductive Ending
  | bare
  | slash
  | escapedSlash

def Ending.write : Ending → List Char
  | bare => ['$']
  | slash => ['/', '?', '$']
  | escapedSlash => ['\\', '/', '?', '$']

/-- Parentheses are closed, and nest one level deep; `inner` says that one is open. -/
def nests : Bool → List Char → Bool
  | inner, [] => !inner
  | false, '(' :: cs => nests true cs
  | true, '(' :: _ => false
  | true, ')' :: cs => nests false cs
  | false, ')' :: _ => false
  | inner, _ :: cs => nests inner cs

namespace Item

def opening : Option (List Char) → List Char
  | none => ['(']
  | some name => ['(', '?', 'P', '<'] ++ name ++ ['>']

def write : Item → List Char
  | char c => [c]
  | escaped c => ['\\', c]
  | group name body => opening name ++ body ++ [')']

lemma write_group (name : Option (List Char)) (body rest : List Char) :
    (group name body).write ++ rest = '(' :: ((opening name).tail ++ body ++ ')' :: rest) := by
  cases name <;> simp [write, opening]

def isLetter (c : Char) : Bool := c.isAlphanum || c == '_' || c == '-' || c == '/'

/-- The item is seen where its text is filled: a character is one of those that stand for
themselves, an escaped one is a mark, and a group has a name of letters if any and holds at most one
level of further groups. -/
def isSeen : Item → Bool
  | char c => isLetter c
  | escaped c => !isWord c && !isBlank c
  | group none body => nests false body && body.head? != some '?'
  | group (some name) body => !name.isEmpty && name.all isWord && nests false body

/-- The item as a piece of the text that is filled. -/
def piece : Item → Piece Template.Part
  | char c => .plain c
  | escaped c => .token (if c = '/' then .slash else .escaped c)
  | group name body => .token (.group name (group name body).write)

def groupCount : Item → Nat
  | group _ _ => 1
  | _ => 0

end Item

def groupsOf : List Item → Nat
  | [] => 0
  | i :: items => groupsOf items + i.groupCount

def sourceOf (items : List Item) (ending : Ending) : List Char :=
  '^' :: (items.flatMap Item.write ++ ending.write)

namespace Template.Part

lemma body?_of_nests {inner : Bool} {u : List Char} (h : nests inner u) (rest : List Char) :
    body? inner (u ++ ')' :: rest) = some (u ++ [')']) := by
  fun_induction nests inner u with
  | case1 inner =>
    obtain rfl : inner = false := by simpa using h
    rfl
  | case2 cs ih =>
    rw [List.cons_append, body?, ih h]
    rfl
  | case3 => cases h
  | case4 cs ih =>
    rw [List.cons_append, body?, ih h]
    rfl
  | case5 => cases h
  | case6 inner c cs h₁ h₂ h₃ h₄ ih =>
    rw [List.cons_append, body?, ih h]
    · rfl
    · exact h₄
    · exact h₃
    · exact h₁
    · exact h₂

lemma readEnd_of_ne {c : Char} {cs : List Char} (hd : c ≠ '$') (hb : c ≠ '\\')
    (hq : cs.head? ≠ some '?') : readEnd (c :: cs) = none := by
  have hend : atEnd (c :: cs) = false := by
    unfold atEnd
    split <;> simp_all
  unfold readEnd
  split
  · next h =>
    cases h
    exact absurd rfl hb
  · next h =>
    cases h
    exact absurd rfl hq
  · rw [hend, if_neg Bool.false_ne_true]

lemma readEnd_backslash {c : Char} {cs : List Char} (hq : cs.head? ≠ some '?') :
    readEnd ('\\' :: c :: cs) = none := by
  unfold readEnd
  split
  · next h =>
    cases h
    exact absurd rfl hq
  · next h => cases h
  · rfl

lemma isLetter_ne {c : Char} (hc : Item.isLetter c) {d : Char} (hd : Item.isLetter d = false) :
    c ≠ d := by
  rintro rfl
  rw [hc] at hd
  cases hd

/-- A character that stands for itself begins no part, unless it is a slash that may be missing. -/
lemma read?_letter {c : Char} (hc : Item.isLetter c) {cs : List Char} (hq : cs.head? ≠ some '?')
    (before : Char) : read? (some before) (c :: cs) = none := by
  have hback : c ≠ '\\' := isLetter_ne hc (by decide)
  have hopen : c ≠ '(' := isLetter_ne hc (by decide)
  unfold read?
  split
  · next h _ => cases h
  · rw [readEnd_of_ne (isLetter_ne hc (by decide)) hback hq]
    dsimp only
    split
    · next h =>
      cases h
      exact absurd rfl hback
    · next h =>
      cases h
      exact absurd rfl hback
    · next h =>
      cases h
      exact absurd rfl hopen
    · rfl

lemma read?_escaped {c : Char} (hc : (Item.escaped c).isSeen) {cs : List Char}
    (hq : cs.head? ≠ some '?') (before : Char) :
    read? (some before) ('\\' :: c :: cs) = some (if c = '/' then .slash else .escaped c) := by
  simp only [Item.isSeen, Bool.and_eq_true, Bool.not_eq_true'] at hc
  unfold read?
  split
  · next h => cases h
  · rw [readEnd_backslash hq]
    dsimp only
    by_cases hs : c = '/'
    · subst hs
      rfl
    · rw [if_neg hs]
      split
      · next h =>
        cases h
        exact absurd rfl hs
      · next h =>
        cases h
        rw [hc.1, hc.2]
        rfl
      · next h => cases h
      · next h₁ h₂ h₃ => exact absurd rfl (h₂ _ _)

lemma readGroup_opening {name : Option (List Char)} {body : List Char}
    (hi : (Item.group name body).isSeen) (rest : List Char) :
    readGroup ((Item.opening name).tail ++ body ++ ')' :: rest) =
      some (.group name (Item.group name body).write) := by
  cases name with
  | none =>
    simp only [Item.isSeen, Bool.and_eq_true, bne_iff_ne] at hi
    have hread := body?_of_nests hi.1 rest
    have hhead : (body ++ ')' :: rest).head? ≠ some '?' := by
      cases body with
      | nil => simp
      | cons c body => simpa using hi.2
    change readGroup (body ++ ')' :: rest) = _
    unfold readGroup
    split
    · next h =>
      rw [h] at hhead
      exact absurd rfl hhead
    · next h =>
      rw [h] at hhead
      exact absurd rfl hhead
    · rw [hread]
      rfl
  | some name =>
    simp only [Item.isSeen, Bool.and_eq_true, Bool.not_eq_true', List.all_eq_true] at hi
    have htake : (name ++ '>' :: (body ++ ')' :: rest)).takeWhile isWord = name := by
      rw [List.takeWhile_append_of_pos hi.1.2, List.takeWhile_cons_of_neg (by decide),
        List.append_nil]
    have hdrop : (name ++ '>' :: (body ++ ')' :: rest)).dropWhile isWord =
        '>' :: (body ++ ')' :: rest) := by
      rw [List.dropWhile_append_of_pos hi.1.2, List.dropWhile_cons_of_neg (by decide)]
    have hread := body?_of_nests hi.2 rest
    have hsplit : (Item.opening (some name)).tail ++ body ++ ')' :: rest =
        '?' :: 'P' :: '<' :: (name ++ '>' :: (body ++ ')' :: rest)) := by
      simp [Item.opening]
    rw [hsplit, readGroup]
    simp [htake, hdrop, hread, hi.1.1, Item.write, Item.opening]

lemma read?_group {name : Option (List Char)} {body : List Char}
    (hi : (Item.group name body).isSeen) (before : Char) (rest : List Char) :
    read? (some before) ((Item.group name body).write ++ rest) =
      some (.group name (Item.group name body).write) := by
  have hend : readEnd ('(' :: ((Item.opening name).tail ++ body ++ ')' :: rest)) = none := by
    unfold readEnd
    split
    · next h => cases h
    · next h => cases h
    · rfl
  rw [Item.write_group]
  unfold read?
  split
  · next h => cases h
  · rw [hend]
    exact readGroup_opening hi rest

lemma read?_ending (ending : Ending) (before : Char) :
    read? (some before) ending.write = some (.edge ending.write) := by
  cases ending <;> rfl

/-- The text behind some items does not begin with a question mark. -/
lemma head?_items {items : List Item} (hi : ∀ i ∈ items, i.isSeen) (ending : Ending) :
    (items.flatMap Item.write ++ ending.write).head? ≠ some '?' := by
  cases items with
  | nil => cases ending <;> simp [Ending.write]
  | cons i items =>
    cases i with
    | char c => simpa [Item.write] using isLetter_ne (hi _ List.mem_cons_self) (by decide)
    | escaped c => simp [Item.write]
    | group name body => cases name <;> simp [Item.write, Item.opening]

/-- A part that is read is one piece, and what comes behind it is read after a character. -/
lemma piecesFrom_part {before : Char} {part : Part} {w cs : List Char} {ps : List (Piece Part)}
    (hw : part.write = w) (hne : w ≠ []) (hr : read? (some before) (w ++ cs) = some part)
    (hrest : ∀ b, scanner.piecesFrom 0 (some b) cs = ps) :
    scanner.piecesFrom 0 (some before) (w ++ cs) = .token part :: ps := by
  subst hw
  obtain ⟨b, hb⟩ := Option.isSome_iff_exists.mp (List.getLast?_isSome.mpr hne)
  have h : scanner.piecesFrom 0 (some before) (scanner.write part ++ cs) = _ :=
    Scanner.piecesFrom_write hne hr
  rw [show (scanner.write part).getLast? = some b from hb, hrest] at h
  exact h

lemma piecesFrom_items {items : List Item} (hi : ∀ i ∈ items, i.isSeen) (ending : Ending)
    (before : Char) :
    scanner.piecesFrom 0 (some before) (items.flatMap Item.write ++ ending.write) =
      items.map Item.piece ++ [.token (.edge ending.write)] := by
  induction items generalizing before with
  | nil =>
    have hread : read? (some before) (ending.write ++ []) = some (.edge ending.write) := by
      rw [List.append_nil]
      exact read?_ending ending before
    have hne : ending.write ≠ [] := by cases ending <;> exact List.cons_ne_nil _ _
    have hrest (b : Char) : scanner.piecesFrom 0 (some b) [] = [] := rfl
    have hwrite : (Part.edge ending.write).write = ending.write := rfl
    have h := piecesFrom_part hwrite hne hread hrest
    rwa [List.append_nil] at h
  | cons i items ih =>
    obtain ⟨hfirst, hrest⟩ := List.forall_mem_cons.mp hi
    have hq := head?_items hrest ending
    rw [List.flatMap_cons, List.append_assoc, List.map_cons, List.cons_append]
    cases i with
    | char c =>
      have hread : scanner.read? (some before) (c :: (items.flatMap Item.write ++ ending.write)) =
          none := read?_letter hfirst hq before
      change scanner.piecesFrom 0 (some before)
        (c :: (items.flatMap Item.write ++ ending.write)) = _
      rw [Scanner.piecesFrom, hread]
      exact congrArg _ (ih hrest c)
    | escaped c =>
      refine piecesFrom_part ?_ (by simp [Item.write]) (read?_escaped hfirst hq before)
        (ih hrest)
      by_cases hc : c = '/' <;> simp [Item.write, write, hc]
    | group name body =>
      exact piecesFrom_part rfl (by cases name <;> simp [Item.write, Item.opening])
        (read?_group hfirst before _) (ih hrest)

/-- A text from start to end is filled item by item. -/
theorem pieces_sourceOf {items : List Item} (hi : ∀ i ∈ items, i.isSeen) (ending : Ending) :
    scanner.pieces (sourceOf items ending) =
      .token (.edge ['^']) :: (items.map Item.piece ++ [.token (.edge ending.write)]) := by
  have h : scanner.piecesFrom 0 none (scanner.write (.edge ['^']) ++
      (items.flatMap Item.write ++ ending.write)) = _ :=
    Scanner.piecesFrom_write (List.cons_ne_nil _ _) rfl
  exact h.trans (congrArg _ (piecesFrom_items hi ending '^'))

end Template.Part

def spelled : List Item → List (List Char) → List Char
  | [], _ => []
  | .char c :: items, xs => c :: spelled items xs
  | .escaped c :: items, xs => c :: spelled items xs
  | .group _ _ :: items, x :: xs => x ++ spelled items xs
  | .group _ _ :: items, [] => spelled items []

namespace Template

def fillings (named : OrderedMap Value) : Supply → List Item → List (List Char)
  | _, [] => []
  | supply, .char _ :: items => fillings named supply items
  | supply, .escaped _ :: items => fillings named supply items
  | supply, .group name body :: items =>
    let filled := fillPart named supply (.group name body)
    filled.2 :: fillings named filled.1 items

/-- The anchors of a text go, and its groups are filled. -/
theorem fill_sourceOf {items : List Item} (hi : ∀ i ∈ items, i.isSeen) (ending : Ending)
    (named : OrderedMap Value) (positional : List Value) :
    fill named positional (sourceOf items ending) =
      spelled items (fillings named ⟨0, positional⟩ items) := by
  have hitems (supply : Supply) (is : List Item) :
      Scanner.render (fillPart named) supply
          (is.map Item.piece ++ [.token (.edge ending.write)]) =
        spelled is (fillings named supply is) := by
    induction is generalizing supply with
    | nil => rfl
    | cons i is ih =>
      cases i with
      | char c => exact congrArg (c :: ·) (ih supply)
      | escaped c =>
        by_cases hc : c = '/'
        · subst hc
          exact congrArg ('/' :: ·) (ih supply)
        · have hpiece : (Item.escaped c).piece = .token (.escaped c) := by
            rw [Item.piece, if_neg hc]
          rw [List.map_cons, hpiece]
          exact congrArg (c :: ·) (ih supply)
      | group name body => exact congrArg _ (ih _)
  rw [fill, Scanner.replaceWith_eq_render, Part.pieces_sourceOf hi]
  exact hitems _ items

/-- The value that is given to a group by its name. -/
def givenTo (named : OrderedMap Value) (name : Option (List Char)) : Option Value :=
  name.bind fun name => Path.given? named (String.ofList name)

/-- A group is left to the positional values. -/
def isLeft (named : OrderedMap Value) : Item → Bool
  | .group name _ => (givenTo named name).isNone
  | _ => false

/-- The values that the groups of some items take, from the left: that of its name, else the next
positional one. -/
def taken (named : OrderedMap Value) : List Value → List Item → List Value
  | _, [] => []
  | positional, .char _ :: items => taken named positional items
  | positional, .escaped _ :: items => taken named positional items
  | positional, .group name _ :: items =>
    match givenTo named name, positional with
    | some v, positional => v :: taken named positional items
    | none, v :: positional => v :: taken named positional items
    | none, [] => []

section Taken

variable {named : OrderedMap Value} {positional : List Value} {items : List Item}

lemma taken_of_some {name : Option (List Char)} {v : Value} (hv : givenTo named name = some v)
    (body : List Char) : taken named positional (.group name body :: items) =
      v :: taken named positional items :=
  taken.eq_4 named name body items positional v hv

lemma taken_of_none {name : Option (List Char)} (hv : givenTo named name = none) (v : Value)
    (body : List Char) : taken named (v :: positional) (.group name body :: items) =
      v :: taken named positional items :=
  taken.eq_5 named name body items v positional hv

/-- Where there is one positional value for each group that is left to them, each group takes a
value. -/
lemma length_taken (h : positional.length = items.countP (isLeft named)) :
    (taken named positional items).length = groupsOf items := by
  induction items generalizing positional with
  | nil => rfl
  | cons i items ih =>
    cases i with
    | char c => exact ih h
    | escaped c => exact ih h
    | group name body =>
      rw [List.countP_cons] at h
      cases hv : givenTo named name with
      | some v =>
        rw [isLeft, hv] at h
        rw [taken_of_some hv, List.length_cons, ih h]
        rfl
      | none =>
        rw [isLeft, hv] at h
        obtain ⟨v, positional, rfl⟩ := List.exists_cons_of_length_eq_add_one h
        rw [taken_of_none hv, List.length_cons, ih (Nat.succ.inj h)]
        rfl

/-- A group is filled with the value that it takes, as one segment. -/
lemma fillings_eq_segments (hcount : positional.length = items.countP (isLeft named))
    (hnull : ∀ v ∈ positional, v ≠ .null) (hslash : ∀ v ∈ positional, '/' ∉ v.display.toList)
    (next : Nat) : fillings named ⟨next, positional⟩ items =
      (taken named positional items).map Path.segment := by
  induction items generalizing positional next with
  | nil => rfl
  | cons i items ih =>
    cases i with
    | char c => exact ih hcount hnull hslash next
    | escaped c => exact ih hcount hnull hslash next
    | group name body =>
      rw [List.countP_cons] at hcount
      cases hv : givenTo named name with
      | some v =>
        rw [isLeft, hv] at hcount
        have hpart : fillPart named ⟨next, positional⟩ (.group name body) =
            (⟨next + 1, positional⟩, Path.segment v) := by
          rw [givenTo] at hv
          rw [fillPart, hv]
        rw [fillings, hpart, taken_of_some hv, ih hcount hnull hslash]
        rfl
      | none =>
        rw [isLeft, hv] at hcount
        obtain ⟨v, positional, rfl⟩ := List.exists_cons_of_length_eq_add_one hcount
        obtain ⟨hv₀, hnull⟩ := List.forall_mem_cons.mp hnull
        obtain ⟨hv₁, hslash⟩ := List.forall_mem_cons.mp hslash
        have hpart : fillPart named ⟨next, v :: positional⟩ (.group name body) =
            (⟨next + 1, positional⟩, Path.segment v) := by
          rw [givenTo] at hv
          rw [Path.segment, ← Percent.encodePath_eq_encodeSegment hv₁]
          cases v with
          | null => exact absurd rfl hv₀
          | _ =>
            rw [fillPart, hv]
            rfl
        rw [fillings, hpart, taken_of_none hv, ih (Nat.succ.inj hcount) hnull hslash]
        rfl

end Taken

/-- Where texts are given by position alone, one for each group at least, each group is filled with
the next text. -/
lemma spelled_fillings {items : List Item} {args : List String}
    (h : groupsOf items ≤ args.length) (next : Nat) :
    spelled items (fillings [] ⟨next, args.map .text⟩ items) =
      spelled items (args.map fun a => Percent.encodePath a.toList) := by
  induction items generalizing args next with
  | nil => rfl
  | cons i items ih =>
    cases i with
    | char c => exact congrArg (c :: ·) (ih h next)
    | escaped c => exact congrArg (c :: ·) (ih h next)
    | group name body =>
      obtain ⟨a, args, rfl⟩ := List.exists_cons_of_length_pos (Nat.zero_lt_of_lt h)
      have hpart : fillPart [] ⟨next, (a :: args).map .text⟩ (.group name body) =
          (⟨next + 1, args.map .text⟩, Percent.encodePath a.toList) := by
        cases name <;> rfl
      rw [fillings, hpart]
      exact congrArg (Percent.encodePath a.toList ++ ·) (ih (Nat.le_of_succ_le_succ h) (next + 1))

end Template

end ActionRouting.Regex
