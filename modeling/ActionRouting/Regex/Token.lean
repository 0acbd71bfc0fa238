import ActionRouting.Regex.Node

/-! The lexical parts of a regular expression. -/
namespace ActionRouting.Regex

/-- Why a text is no regular expression. -/
inductive Error
  | badEscape
  | unterminatedSet
  | badRange
  | unknownCharName
  | reversedBounds
  | hugeBound
  | longBound
  | nothingToRepeat
  | multipleRepeat
  | badGroupName
  | badGroupNumber
  | repeatedGroupName (name : String)
  | unknownGroupName (name : String)
  | unknownGroup (index : Nat)
  | openGroup (index : Nat)
  | groupOfSameLookbehind (index : Nat)
  | variableLookbehind
  | hugeLookbehind
  | repeatedInTemplate
  | badExtension
  | badFlags
  | lateFlags
  | conflictingFlags
  | unterminatedComment
  | unclosedGroup
  | deepGroup
  | strayClose
  | thirdBranch
  deriving DecidableEq, Repr

/-- The options of a regular expression. A template repeats nothing. -/
structure Flags where
  ignoreCase : Bool := false
  dotAll : Bool := false
  multiLine : Bool := false
  verbose : Bool := false
  ascii : Bool := false
  unicode : Bool := false
  template : Bool := false
  deriving DecidableEq, Repr

namespace Flags

def union (a b : Flags) : Flags :=
  ⟨a.ignoreCase || b.ignoreCase, a.dotAll || b.dotAll, a.multiLine || b.multiLine,
    a.verbose || b.verbose, a.ascii || b.ascii, a.unicode || b.unicode,
    a.template || b.template⟩

/-- The options of the first that are not options of the second. -/
def without (a b : Flags) : Flags :=
  ⟨a.ignoreCase && !b.ignoreCase, a.dotAll && !b.dotAll, a.multiLine && !b.multiLine,
    a.verbose && !b.verbose, a.ascii && !b.ascii, a.unicode && !b.unicode,
    a.template && !b.template⟩

def inter (a b : Flags) : Flags :=
  ⟨a.ignoreCase && b.ignoreCase, a.dotAll && b.dotAll, a.multiLine && b.multiLine,
    a.verbose && b.verbose, a.ascii && b.ascii, a.unicode && b.unicode,
    a.template && b.template⟩

/-- The options inside a group that turns some on and some off. The two readings of classes
exclude each other, so turning one on turns the other off. -/
def inside (a on off : Flags) : Flags :=
  let base := if on.ascii || on.unicode then { a with ascii := false, unicode := false } else a
  (base.union on).without off

def ofLetter? : Char → Option Flags
  | 'i' => some { ignoreCase := true }
  | 's' => some { dotAll := true }
  | 'm' => some { multiLine := true }
  | 'x' => some { verbose := true }
  | 'a' => some { ascii := true }
  | 'u' => some { unicode := true }
  | 't' => some { template := true }
  | _ => none

/-- The options ask for both readings of classes. -/
def conflict (f : Flags) : Bool := f.ascii && f.unicode

def casing (f : Flags) : Casing :=
  if f.ignoreCase then if f.ascii then .ascii else .unicode else .exact

end Flags

/-- A lexical part of a regular expression. A part that is at fault carries its fault, so that
faults are met in the order of the text. -/
inductive Token
  | char (code : Nat)
  | set (negated : Bool) (members : List Member)
  | dot
  | caret
  | dollar
  | textStart
  | textEnd
  | boundary (negated : Bool)
  | quantifier (mode : Mode) (min : Nat) (max : Option Nat)
  | bar
  | openCapture (name : Option String)
  | openPlain (on off : Flags)
  | openLook (behind negated : Bool)
  | openAtomic
  | openIfGroup (index : Nat)
  | openIfNamed (name : String)
  | close
  | flags (on : Flags)
  | reference (index : Nat)
  | namedReference (name : String)
  | comment
  | bad (e : Error)
  deriving DecidableEq, Repr

end ActionRouting.Regex
