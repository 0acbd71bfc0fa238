import ActionRouting.Proofs.Path.Compiled

/-! Paths of atoms: characters, escaped characters, classes of characters, and whole segments that
are parameters. An atom is read by itself. In a class every star, and every parenthesis that would
open a group elsewhere, counts as a capture group although there is none. -/
namespace ActionRouting

namespace Path

open Text Regex

/-- A part of a path that is read by itself: a character, an escaped character, a class of
characters, or a parameter that is a segment with its slash. -/
inductive Atom
  | char (c : Char)
  | escape (c : Char)
  | set (u : List Char)
  | hole (name : List Char)
  deriving DecidableEq, Repr

/-- Punctuation of ASCII, without the two characters that end the path of a URL. -/
def punctuation : List Char := "!\"$%&'()*+,-./:;<=>@[\\]^_\x60\x7b|\x7d~".toList

def isClassChar (c : Char) : Bool := !"[]\\^-:/".toList.contains c

namespace Atom

def write : Atom → List Char
  | char c => [c]
  | escape c => ['\\', c]
  | set u => '[' :: u ++ [']']
  | hole name => '/' :: ':' :: name

/-- Characters are free of syntax or slashes, escaped ones are punctuation, classes have members,
and parameters have names. -/
def isValid : Atom → Bool
  | char c => isFree c || c == '/'
  | escape c => punctuation.contains c
  | set u => !u.isEmpty && u.all isClassChar
  | hole name => !name.isEmpty && name.all isWord

def leads : Atom → Bool
  | char c | escape c => c == '/'
  | set _ => false
  | hole _ => true

def param (name : List Char) : Param := (Hole.mk name false).param true false

end Atom

def atomPath (as : List Atom) : List Char := as.flatMap Atom.write

/-- Every parameter is followed by a slash, or by nothing. -/
def isSegmented : List Atom → Bool
  | [] => true
  | .hole _ :: as => as.head?.all Atom.leads && isSegmented as
  | _ :: as => isSegmented as

/-- The atoms are valid, and their parameters are whole segments. -/
def isAtomic (as : List Atom) : Bool := as.all Atom.isValid && isSegmented as

/-- What the members of a class become: a star is written as it is outside of classes. -/
def spread (u : List Char) : List Char :=
  u.flatMap fun c => if c = '*' then ['(', '.', '*', ')'] else [c]

/-- The members of a class as a regular expression writes them. -/
def classText (u : List Char) : List Char :=
  u.flatMap fun c => if c = '*' then ['(', '.', '*', ')'] else if c = '.' then ['\\', '.'] else [c]

/-- What the members of a class stand for where they are read as parts of a path: a star, and a
parenthesis that opens a group, for a capture group each. -/
def openings : List Char → List Slot
  | [] => []
  | c :: cs =>
    if c = '*' then {} :: openings cs
    else if c = '(' then
      match Fragment.readGroup cs with
      | some (.group name) => ⟨name.map String.ofList, false⟩ :: openings cs
      | _ => openings cs
    else openings cs

def membersOf (u : List Char) : List Member := (spread u).map fun c => .char c.toNat

def setOf (casing : Casing) (u : List Char) : CharSet :=
  ⟨false, (u.map fun c => Member.char c.toNat).eraseDups, casing, false⟩

namespace Atom

/-- The characters of which the atom takes one, unless it is a parameter. -/
def choice : Atom → Option (List Char)
  | char c | escape c => some [c]
  | set u => some (spread u)
  | hole _ => none

def expression : Atom → List Char
  | char c => [c]
  | escape c => ['\\', c]
  | set u => '[' :: classText u ++ [']']
  | hole name => (Fragment.param (param name)).image

/-- What the capture groups of the atom are taken to stand for. -/
def slots : Atom → List Slot
  | char _ | escape _ => []
  | set u => openings u
  | hole name => [⟨some (String.ofList name), false⟩]

def tokens : Atom → List Token
  | char c | escape c => [.char c.toNat]
  | set u => [.set false (membersOf u)]
  | hole name => tokensOf (.token (param name))

def name? : Atom → Option String
  | hole name => some (String.ofList name)
  | _ => none

end Atom

/-- The parts of a regular expression for some atoms, whose capture groups have numbers above
`count`. -/
def atomNodes (casing : Casing) : Nat → List Atom → List Node
  | _, [] => []
  | count, a :: as =>
    match a.choice with
    | some u => .chars (setOf casing u) :: atomNodes casing count as
    | none => (Atom.param []).nodes casing (count + 1) ++ atomNodes casing (count + 1) as

def holeNames (as : List Atom) : List String := as.filterMap Atom.name?

/-- What the capture groups of some atoms are taken to stand for. -/
def atomSlots (as : List Atom) : List Slot := as.flatMap Atom.slots

variable {a : Atom} {as : List Atom} {u rest name : List Char} {casing : Casing}

lemma isAtomic_cons (h : isAtomic (a :: as)) : a.isValid ∧ isAtomic as := by
  simp only [isAtomic, List.all_cons, Bool.and_eq_true] at h ⊢
  refine ⟨h.1.1, h.1.2, ?_⟩
  have hs := h.2
  cases a with
  | hole name =>
    rw [isSegmented, Bool.and_eq_true] at hs
    exact hs.2
  | _ => exact hs

/-! ### How the path is cut into its fragments -/

lemma Fragment.read?_of_not_mem {before : Option Char} {c : Char} {cs : List Char}
    (h : c ∉ ['/', '.', ':', '\\', '(', '*']) : Fragment.read? before (c :: cs) = none := by
  simp only [List.mem_cons, List.not_mem_nil, or_false, not_or] at h
  obtain ⟨h₁, h₂, h₃, h₄, h₅, h₆⟩ := h
  simp only [Fragment.read?, Param.read?_of_ne h₁ h₂ h₃]
  split <;> simp_all

lemma Fragment.read?_open (before : Option Char) (cs : List Char) :
    Fragment.read? before ('(' :: cs) = Fragment.readGroup cs := by
  rw [Fragment.read?, Param.read?_of_ne (by decide) (by decide) (by decide)]

lemma readGroup_of_ne {cs : List Char} (h : cs.head? ≠ some '?') :
    Fragment.readGroup cs = some (.group none) := by
  unfold Fragment.readGroup
  split <;> first | exact absurd rfl h | rfl

/-- A question mark that begins no name opens nothing. -/
lemma readGroup_query {cs : List Char} (h : ¬ ['P', '<'] <+: cs) :
    Fragment.readGroup ('?' :: cs) = none := by
  unfold Fragment.readGroup
  split
  · next heq =>
    obtain ⟨-, rfl⟩ := List.cons.inj heq
    exact absurd ⟨_, rfl⟩ h
  · rfl
  · next hne => exact absurd rfl (hne cs)

lemma takeWhile_append_stop {p : Char → Bool} {d : Char} (hd : p d = false) (u rest : List Char) :
    (u ++ d :: rest).takeWhile p = u.takeWhile p := by
  induction u with
  | nil => simp [hd]
  | cons c u ih => by_cases hc : p c <;> simp [hc, ih]

lemma dropWhile_append_stop {p : Char → Bool} {d : Char} (hd : p d = false) (u rest : List Char) :
    (u ++ d :: rest).dropWhile p = u.dropWhile p ++ d :: rest := by
  induction u with
  | nil => simp [hd]
  | cons c u ih => by_cases hc : p c <;> simp [hc, ih]

/-- The rest of a path after a class closes no group that was opened in it. -/
lemma readGroup_class (u rest : List Char) :
    Fragment.readGroup (u ++ ']' :: rest) = Fragment.readGroup u := by
  by_cases hq : u.head? = some '?'
  · obtain ⟨u, rfl⟩ := List.head?_eq_some_iff.mp hq
    rw [List.cons_append]
    by_cases hp : ['P', '<'] <+: u
    · obtain ⟨cs, rfl⟩ := hp
      have hstop : isWord ']' = false := by decide
      simp only [List.cons_append, List.nil_append, Fragment.readGroup,
        takeWhile_append_stop hstop, dropWhile_append_stop hstop]
      cases cs.dropWhile isWord with
      | nil => rfl
      | cons c cs => by_cases hc : c = '>' <;> simp [hc]
    · have hp' : ¬ ['P', '<'] <+: u ++ ']' :: rest := by
        rcases u with _ | ⟨c, _ | ⟨d, u⟩⟩ <;> simp at hp ⊢
        exact hp
      rw [readGroup_query hp, readGroup_query hp']
  · have hq' : (u ++ ']' :: rest).head? ≠ some '?' := by
      cases u with
      | nil => simp
      | cons c u => exact hq
    rw [readGroup_of_ne hq, readGroup_of_ne hq']

lemma isClassChar_ne {c : Char} (h : isClassChar c) {d : Char} (hd : isClassChar d = false) :
    c ≠ d := by
  rintro rfl
  rw [h] at hd
  cases hd

lemma isWord_ne {c : Char} (h : isWord c) {d : Char} (hd : isWord d = false) : c ≠ d := by
  rintro rfl
  rw [h] at hd
  cases hd

/-- A name has no stars, no dots and no parentheses. -/
lemma classText_name (h : name.all isWord) : classText name = name := by
  induction name with
  | nil => rfl
  | cons c cs ih =>
    rw [List.all_cons, Bool.and_eq_true] at h
    have hstar : c ≠ '*' := isWord_ne h.1 (by decide)
    have hdot : c ≠ '.' := isWord_ne h.1 (by decide)
    have ih := ih h.2
    rw [classText] at ih
    simp [classText, hstar, hdot, ih]

lemma openings_name (h : name.all isWord) (cs : List Char) :
    openings (name ++ cs) = openings cs := by
  induction name with
  | nil => rfl
  | cons c name ih =>
    rw [List.all_cons, Bool.and_eq_true] at h
    rw [List.cons_append, openings, if_neg (isWord_ne h.1 (by decide)),
      if_neg (isWord_ne h.1 (by decide)), ih h.2]

@[simp] lemma classText_append (u v : List Char) :
    classText (u ++ v) = classText u ++ classText v := List.flatMap_append

lemma openings_cons_of_ne {c : Char} (hs : c ≠ '*') (ho : c ≠ '(') (cs : List Char) :
    openings (c :: cs) = openings cs := by rw [openings, if_neg hs, if_neg ho]

/-- The name of a group adds nothing to what its parenthesis stands for. -/
lemma openings_named (h : name.all isWord) (cs : List Char) :
    openings ('?' :: 'P' :: '<' :: (name ++ '>' :: cs)) = openings cs := by
  rw [openings_cons_of_ne (by decide) (by decide), openings_cons_of_ne (by decide) (by decide),
    openings_cons_of_ne (by decide) (by decide), openings_name h,
    openings_cons_of_ne (by decide) (by decide)]

/-- A dot that is not followed by a colon stands for itself. -/
lemma Fragment.read?_dot (before : Option Char) {cs : List Char} (h : cs.head? ≠ some ':') :
    Fragment.read? before ('.' :: cs) = some .dot := by
  have hparam : Param.read? before ('.' :: cs) = none := by
    rw [Param.read?, Param.eat_of_ne (by simp)]
    dsimp only
    rw [Param.eat_self]
    dsimp only
    split
    · exact absurd rfl h
    · rfl
  rw [Fragment.read?, hparam]

/-- A text is cut into fragments that give a regular expression and slots. -/
def Yields (cs : List Char) (r : Pattern.Piece) : Prop :=
  ∃ ps, (∀ before, Fragment.scanner.Cuts before cs ps) ∧ Pattern.ofPieces ps = .ok r

section Yields

variable {cs : List Char} {r : Pattern.Piece}

lemma Yields.nil : Yields [] ([], []) := ⟨[], fun before => .nil before, rfl⟩

lemma Yields.plain {c : Char} (h : Yields cs r)
    (hc : ∀ before, Fragment.read? before (c :: cs) = none) : Yields (c :: cs) (c :: r.1, r.2) := by
  obtain ⟨ps, hcuts, hpieces⟩ := h
  refine ⟨.plain c :: ps, fun before => .plain (hc before) (hcuts _), ?_⟩
  rw [Pattern.ofPieces, hpieces]
  rfl

lemma Yields.token {f : Fragment} {first : Pattern.Piece} (h : Yields cs r)
    (hf : ∀ before, Fragment.read? before (f.write ++ cs) = some f)
    (ho : Pattern.ofFragment f = .ok first) :
    Yields (f.write ++ cs) (first.1 ++ r.1, first.2 ++ r.2) := by
  obtain ⟨ps, hcuts, hpieces⟩ := h
  refine ⟨.token f :: ps, fun before => .token (hf before) (hcuts _), ?_⟩
  rw [Pattern.ofPieces, ho, hpieces]
  rfl

lemma Yields.pieces_eq (h : Yields cs r) :
    Pattern.ofPieces (Fragment.scanner.pieces cs) = .ok r := by
  obtain ⟨ps, hcuts, hpieces⟩ := h
  rw [Text.Scanner.pieces, ← Fragment.scanner_isFaithful.eq_piecesFrom (hcuts none)]
  exact hpieces

lemma openings_open {cs : List Char} {name : Option (List Char)}
    (h : Fragment.readGroup cs = some (.group name)) :
    openings ('(' :: cs) = ⟨name.map String.ofList, false⟩ :: openings cs := by
  rw [openings, if_neg (by decide), if_pos rfl, h]

lemma openings_stay {cs : List Char} (h : Fragment.readGroup cs = none) :
    openings ('(' :: cs) = openings cs := by
  rw [openings, if_neg (by decide), if_pos rfl, h]

/-- A group with a name that is opened in a class. -/
lemma yields_named {v : List Char} (hname : Fragment.isName name)
    (h : Yields (v ++ ']' :: rest) (classText v ++ r.1, openings v ++ r.2)) :
    Yields ((Fragment.group (some name)).write ++ v ++ ']' :: rest)
      (classText ((Fragment.group (some name)).write ++ v) ++ r.1,
        openings ((Fragment.group (some name)).write ++ v) ++ r.2) := by
  have hword : name.all isWord := (Bool.and_eq_true_iff.mp hname).2
  have hwrite (cs : List Char) : (Fragment.group (some name)).write ++ cs =
      '(' :: '?' :: 'P' :: '<' :: (name ++ '>' :: cs) := by simp [Fragment.write]
  have htext : classText ((Fragment.group (some name)).write ++ v) =
      (Fragment.group (some name)).write ++ classText v := by
    rw [Fragment.write, classText_append, classText_append, classText_append,
      classText_name hword]
    rfl
  have hslots : openings ((Fragment.group (some name)).write ++ v) =
      ⟨some (String.ofList name), false⟩ :: openings v := by
    rw [hwrite, openings_open (Fragment.readGroup_named hname _), openings_named hword]
    rfl
  have := h.token (f := .group (some name)) (fun before => ?_) rfl
  · rwa [htext, hslots, List.append_assoc, List.append_assoc]
  · rw [hwrite, Fragment.read?_open, Fragment.readGroup_named hname]

/-- The members of a class are read as parts of a path: as dots, stars, openings of groups, and
characters that stand alone. -/
lemma yields_class (hu : u.all isClassChar) (h : Yields (']' :: rest) r) :
    Yields (u ++ ']' :: rest) (classText u ++ r.1, openings u ++ r.2) := by
  induction hn : u.length using Nat.strongRecOn generalizing u with
  | _ n ih =>
  subst hn
  cases u with
  | nil => exact h
  | cons c u =>
    rw [List.all_cons, Bool.and_eq_true] at hu
    have hne := fun d hd => isClassChar_ne hu.1 (d := d) hd
    have hrest := ih _ (Nat.lt_succ_self _) hu.2 rfl
    by_cases hopen : c = '('
    · subst hopen
      have hread (before : Option Char) :
          Fragment.read? before ('(' :: (u ++ ']' :: rest)) = Fragment.readGroup u :=
        (Fragment.read?_open before _).trans (readGroup_class u rest)
      cases hg : Fragment.readGroup u with
      | none =>
        rw [openings_stay hg]
        exact hrest.plain fun before => (hread before).trans hg
      | some f =>
        rcases Fragment.readGroup_eq_some hg with ⟨rfl, -⟩ | ⟨name, v, rfl, hname, rfl⟩
        · rw [openings_open hg]
          exact hrest.token (f := .group none) (fun before => (hread before).trans hg) rfl
        · have hv : v.all isClassChar := by
            have := hu.2
            rw [List.all_append, List.all_cons, Bool.and_eq_true, Bool.and_eq_true] at this
            exact this.2.2
          have := yields_named hname (ih _ (by simp; omega) hv rfl)
          simpa [Fragment.write] using this
    · by_cases hstar : c = '*'
      · subst hstar
        exact hrest.token (f := .wildcard) (fun _ => rfl) rfl
      · rw [openings_cons_of_ne hstar hopen]
        by_cases hdot : c = '.'
        · subst hdot
          have hcolon : (u ++ ']' :: rest).head? ≠ some ':' := by
            cases u with
            | nil => simp
            | cons d u =>
              rw [List.all_cons, Bool.and_eq_true] at hu
              simpa using isClassChar_ne hu.2.1 (by decide)
          exact hrest.token (f := .dot) (fun before => Fragment.read?_dot before hcolon) rfl
        · have hplain : c ∉ ['/', '.', ':', '\\', '(', '*'] := by
            simp [hopen, hstar, hdot, hne '/' (by decide), hne ':' (by decide),
              hne '\\' (by decide)]
          have := hrest.plain fun before => Fragment.read?_of_not_mem hplain
          simpa [classText, hstar, hdot] using this

/-- What may follow a slash that is no part of a parameter. -/
def isApart (cs : List Char) : Bool := cs.head?.all fun c => c != '.' && c != ':'

/-- What may follow a parameter that is a segment. -/
def endsSegment (cs : List Char) : Bool := cs.head?.all fun c => c == '/' || c == '\\'

lemma isFree_or_slash {c : Char} (h : (Atom.char c).isValid) : isFree c ∨ c = '/' := by
  simpa [Atom.isValid] using h

lemma isApart_write (hv : a.isValid) (cs : List Char) : isApart (a.write ++ cs) := by
  cases a with
  | char c =>
    rcases isFree_or_slash hv with hc | rfl
    · simp [Atom.write, isApart, isFree_ne hc (d := '.') (by decide),
        isFree_ne hc (d := ':') (by decide)]
    · rfl
  | _ => rfl

lemma isApart_atomPath (h : isAtomic as) : isApart (atomPath as) := by
  cases as with
  | nil => rfl
  | cons a as => exact isApart_write (isAtomic_cons h).1 (atomPath as)

lemma endsSegment_atomPath (h : as.head?.all Atom.leads) : endsSegment (atomPath as) := by
  cases as with
  | nil => rfl
  | cons a as =>
    have hl : a.leads := by simpa using h
    cases a with
    | char c =>
      obtain rfl : c = '/' := beq_iff_eq.mp hl
      rfl
    | set u => cases hl
    | _ => rfl

lemma yields_char {c : Char} (hv : (Atom.char c).isValid) (hr : isApart cs) (h : Yields cs r) :
    Yields (c :: cs) (c :: r.1, r.2) := by
  refine h.plain fun before => ?_
  rcases isFree_or_slash hv with hc | rfl
  · exact extends_fragment.read_none (.inl hc) (Param.read?_of_ne (isFree_ne hc (by decide))
      (isFree_ne hc (by decide)) (isFree_ne hc (by decide)))
  · refine extends_fragment.read_none (.inr rfl) (Param.read?_slash ?_ ?_)
    all_goals
      rintro he
      rw [isApart, he] at hr
      exact absurd hr (by decide)

lemma follows_of_endsSegment (h : endsSegment cs) : follows false cs := by
  cases cs with
  | nil => rfl
  | cons c cs =>
    have hc : c = '/' ∨ c = '\\' := by simpa [endsSegment] using h
    rcases hc with rfl | rfl <;> rfl

lemma write_param (name : List Char) : (Atom.param name).write = (Atom.hole name).write := by
  rw [Atom.param, param_write]
  simp [Hole.write, Atom.write]

/-- A parameter is read where it is written, if its segment ends behind it. -/
lemma read?_hole (hv : (Atom.hole name).isValid) (hr : endsSegment cs) (before : Option Char) :
    Param.read? before ((Atom.hole name).write ++ cs) = some (Atom.param name) := by
  have hhole : (Hole.mk name false).isValid := hv
  rw [← write_param]
  exact Param.read?_write hhole true false (by simp) (follows_of_endsSegment hr)

lemma yields_hole (hv : (Atom.hole name).isValid) (hr : endsSegment cs) (h : Yields cs r) :
    Yields ((Atom.hole name).write ++ cs)
      ((Atom.hole name).expression ++ r.1, (Atom.hole name).slots ++ r.2) := by
  have hread (before : Option Char) := extends_fragment.read_param (read?_hole hv hr before)
  rw [← write_param] at hread ⊢
  exact h.token (f := .param (Atom.param name)) hread (ofParam_default rfl rfl)

lemma yields_atom (hv : a.isValid) (hr : isApart cs) (hseg : a.name?.isSome → endsSegment cs)
    (h : Yields cs r) : Yields (a.write ++ cs) (a.expression ++ r.1, a.slots ++ r.2) := by
  cases a with
  | char c => exact yields_char hv hr h
  | escape c =>
    have hline : c ≠ '\n' := by
      rintro rfl
      exact absurd hv (by decide)
    refine h.token (f := .escape c) (fun before => ?_) rfl
    rw [Fragment.write, List.cons_append, List.singleton_append, Fragment.read?,
      Param.read?_of_ne (by decide) (by decide) (by decide)]
    exact if_neg hline
  | set u =>
    have hu : u.all isClassChar := (Bool.and_eq_true_iff.mp hv).2
    have hclose := h.plain fun before => Fragment.read?_of_not_mem (c := ']') (by decide)
    have := (yields_class hu hclose).plain fun before =>
      Fragment.read?_of_not_mem (c := '[') (by decide)
    simpa [Atom.write, Atom.expression, Atom.slots] using this
  | hole name => exact yields_hole hv (hseg rfl) h

/-- A path of atoms is cut atom by atom. -/
theorem yields_atomPath (h : isAtomic as) :
    Yields (atomPath as) (as.flatMap Atom.expression, atomSlots as) := by
  induction as with
  | nil => exact .nil
  | cons a as ih =>
    obtain ⟨hv, has⟩ := isAtomic_cons h
    refine yields_atom hv (isApart_atomPath has) (fun hn => ?_) (ih has)
    cases a with
    | hole name =>
      have := (Bool.and_eq_true_iff.mp h).2
      rw [isSegmented, Bool.and_eq_true] at this
      exact endsSegment_atomPath this.1
    | _ => cases hn

end Yields

end Path

end ActionRouting
