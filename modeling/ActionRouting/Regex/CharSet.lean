import ActionRouting.Text.LetterCase

/-! Sets of characters as a regular expression writes them. -/
namespace ActionRouting.Regex

/-- A named class of characters. -/
inductive Category
  | decimal
  | blank
  | word
  deriving DecidableEq, Repr

namespace Category

/-- Membership; in the ASCII reading no other character belongs to any class. -/
def contains (k : Category) (ascii : Bool) (c : Char) : Bool :=
  (!ascii || Text.isAscii c) && match k with
    | .decimal => Text.isDecimal c
    | .blank => if ascii then Text.isAsciiBlank c else Text.isBlank c
    | .word => Text.isWord c

end Category

/-- How a comparison of letters treats case. -/
inductive Casing
  | exact
  | ascii
  | unicode
  deriving DecidableEq, Repr

namespace Casing

/-- The code points that are taken for `c`. -/
def variants : Casing → Char → List Nat
  | .exact, c => [c.toNat]
  | .ascii, c => Text.asciiCaseVariants c
  | .unicode, c => Text.caseVariants c

/-- The form in which a repeated group is compared. -/
def normal : Casing → Char → Char
  | .exact, c => c
  | .ascii, c => c.toLower
  | .unicode, c => Text.lowerChar c

def isCased : Casing → Char → Bool
  | .exact, _ => false
  | .ascii, c => c.isAlpha
  | .unicode, c => Text.lowerChar c != c || Text.raiseChar c != c

end Casing

/-- A part of a set: one code point, the code points from `lo` to `hi`, or a named class or its
complement. -/
inductive Member
  | char (code : Nat)
  | range (lo hi : Nat)
  | category (kind : Category) (negated : Bool)
  deriving DecidableEq, Repr

def planeEnd : Nat := 0xFFFF

namespace Member

/-- Membership in a set of several parts, where a character belongs if one of its case variants
does. Beyond the first plane case is treated more simply: a single code point is compared with the
lower case of the character, and a range that ends there holds a character also for its upper
case. -/
def contains (casing : Casing) (ascii : Bool) (c : Char) : Member → Bool
  | .char code =>
    if planeEnd < code then (casing.normal c).toNat == code else (casing.variants c).contains code
  | .range lo hi =>
    let upper := if planeEnd < hi ∧ casing ≠ .exact then [(Text.raiseChar (casing.normal c)).toNat]
      else []
    (casing.variants c ++ upper).any fun n => lo ≤ n && n ≤ hi
  | .category kind negated => negated != kind.contains ascii c

def isCategory : Member → Bool
  | .category _ _ => true
  | _ => false

/-- A code point of the part is a letter with case, or might be: of a range that leaves the first
plane nothing more is asked. -/
def isCased (casing : Casing) : Member → Bool
  | .char code => casing.isCased (Char.ofNat code)
  | .range lo hi =>
    casing ≠ .exact && (planeEnd < hi ||
      (List.range (hi + 1 - lo)).any fun i => casing.isCased (Char.ofNat (lo + i)))
  | .category _ _ => false

end Member

/-- A set of characters, with the reading of letters and classes that its place demands. -/
structure CharSet where
  negated : Bool := false
  members : List Member
  casing : Casing := .exact
  ascii : Bool := false
  deriving DecidableEq, Repr

namespace CharSet

/-- Membership. A set of one code point is that character up to case. -/
def contains (s : CharSet) (c : Char) : Bool :=
  s.negated != match s.members with
    | [.char code] => (s.casing.variants c).contains code
    | members => members.any (·.contains s.casing s.ascii c)

/-- Membership depends on case. Beyond the first plane a code point counts as a letter with case. -/
def isCased (s : CharSet) : Bool :=
  s.casing ≠ .exact && s.members.any fun m =>
    m.isCased s.casing || match m with
      | .char code => planeEnd < code
      | _ => false

/-- The code point of a set that no letter case and no other member extends. -/
def literal? (s : CharSet) : Option Nat :=
  match s.members with
  | [.char code] => if s.negated || s.casing.isCased (Char.ofNat code) then none else some code
  | _ => none

/-- The set is written with several members or a range, and none depends on case. The set of all
characters but the end of a line is not written so. -/
def isListed (s : CharSet) : Bool :=
  match s.negated, s.members with
  | _, [] | _, [.char _] | true, [.range 10 10] => false
  | _, _ => !s.isCased

/-- A character is compared with several code points, not with its other case alone. -/
def hasRelatives (s : CharSet) : Bool :=
  match s.casing, s.members with
  | .unicode, [.char code] =>
    let c := Char.ofNat code
    (Text.caseVariants c).any fun n => Text.lowerChar (Char.ofNat n) != Text.lowerChar c
  | _, [.char _] => false
  | _, _ => s.isCased

/-- The set read with another reading of classes, if it names classes and no letters with case. -/
def withAscii? (s : CharSet) (ascii : Bool) : Option CharSet :=
  if s.members.any Member.isCategory && !s.members.any (·.isCased s.casing) then
    some { s with casing := .exact, ascii }
  else none

end CharSet

example : (CharSet.mk true [.range 47 47] .exact false).contains 'a' ∧
    ¬ (CharSet.mk true [.range 47 47] .exact false).contains '/' := by decide

end ActionRouting.Regex
