import ActionRouting.Text.Alphabets

/-! The character classes that paths, regular expressions and printed values ask about.
An ASCII character is classified by inspection, any other by its table. -/
namespace ActionRouting.Text

def isAscii (c : Char) : Bool := c.toNat < 128

/-- A letter, a number or the low line. -/
def isWord (c : Char) : Bool :=
  if isAscii c then c.isAlphanum || c == '_' else Alphabet.words.contains c

/-- A decimal digit of any script. -/
def isDecimal (c : Char) : Bool :=
  if isAscii c then c.isDigit else Alphabet.decimals.contains c

/-- The value of a decimal digit. The digits of a script are in a row from zero to nine. -/
def digitValue (c : Char) : Nat :=
  if isAscii c then c.toNat - 48 else (c.toNat - Alphabet.decimals.firstOfRun c) % 10

/-- White space; in ASCII these are tab to carriage return, the four separators, and the space. -/
def isBlank (c : Char) : Bool :=
  if isAscii c then (9 ≤ c.toNat && c.toNat ≤ 13) || (28 ≤ c.toNat && c.toNat ≤ 32)
  else Alphabet.blanks.contains c

/-- A character that a quoted text shows as it is. -/
def isPrintable (c : Char) : Bool :=
  if isAscii c then 32 ≤ c.toNat && c.toNat ≤ 126 else Alphabet.printables.contains c

def isIdentifierStart (c : Char) : Bool :=
  if isAscii c then c.isAlpha || c == '_' else Alphabet.identifierStarts.contains c

def isIdentifierPart (c : Char) : Bool :=
  if isAscii c then c.isAlphanum || c == '_' else Alphabet.identifierParts.contains c

def isIdentifier : List Char → Bool
  | [] => false
  | c :: cs => isIdentifierStart c && cs.all isIdentifierPart

example : isIdentifier "post_id".toList ∧ ¬ isIdentifier "2nd".toList ∧ ¬ isIdentifier [] := by
  decide

/-- A blank of an extended pattern, which ignores the blanks of ASCII only. -/
def isAsciiBlank (c : Char) : Bool :=
  c == ' ' || (9 ≤ c.toNat && c.toNat ≤ 13)

end ActionRouting.Text
