import ActionRouting.Regex.Parser

/-! Positions in a text, and what they tell: the characters around them, and what the capture groups
took on the way. -/
namespace ActionRouting.Regex

/-- The part of a text from one position to another. -/
structure Span where
  start : Nat
  stop : Nat
  deriving DecidableEq, Repr

/-- Where a capture group was last entered and last left. Within the group, it was left before it
was entered. -/
structure Mark where
  start : Option Nat := none
  stop : Option Nat := none
  deriving DecidableEq, Repr

namespace Mark

/-- What lies between the two ends, if both are known. -/
def span? (m : Mark) : Option Span := do return ⟨← m.start, ← m.stop⟩

/-- The group took part: it was left no earlier than entered. -/
def isWhole (m : Mark) : Bool := m.span?.any fun span => span.start ≤ span.stop

end Mark

/-- A position in a text: what lies before it, latest first, what lies after it, and where each
capture group began and ended. -/
structure Cursor where
  pos : Nat := 0
  before : List Char := []
  after : List Char
  groups : List Mark
  deriving DecidableEq, Repr

namespace Cursor

def next? (s : Cursor) : Option (Char × Cursor) :=
  match s.after with
  | [] => none
  | c :: rest => some (c, { s with pos := s.pos + 1, before := c :: s.before, after := rest })

def back? : Nat → Cursor → Option Cursor
  | 0, s => some s
  | n + 1, s =>
    match s.before with
    | [] => none
    | c :: rest => back? n { s with pos := s.pos - 1, before := rest, after := c :: s.after }

def length (s : Cursor) : Nat := s.before.length + s.after.length

def forward : Nat → Cursor → Cursor
  | 0, s => s
  | n + 1, s =>
    match s.next? with
    | some (_, s') => forward n s'
    | none => s

def moveTo (s : Cursor) (pos : Nat) : Cursor :=
  if pos ≤ s.pos then (s.back? (s.pos - pos)).getD s else s.forward (pos - s.pos)

def mark (s : Cursor) (index : Nat) : Mark := s.groups[index - 1]?.getD {}

def took (s : Cursor) (index : Nat) : Bool := (s.mark index).isWhole

def enter (s : Cursor) (index : Nat) : Cursor :=
  { s with groups := s.groups.set (index - 1) { s.mark index with start := some s.pos } }

def leave (s : Cursor) (index : Nat) : Cursor :=
  { s with groups := s.groups.set (index - 1) { s.mark index with stop := some s.pos } }

/-- The text from `start` on, which may lie before the position or after it. -/
def textFrom (s : Cursor) (start : Nat) : List Char :=
  (s.before.take (s.pos - start)).reverse ++ s.after.drop (start - s.pos)

def captured? (s : Cursor) (index : Nat) : Option (List Char) := do
  let span ← (s.mark index).span?
  if span.stop < span.start then none
  return (s.textFrom span.start).take (span.stop - span.start)

/-- Takes a text that equals `expected` up to case. -/
def takeText (casing : Casing) : List Char → Cursor → Option Cursor
  | [], s => some s
  | x :: expected, s =>
    match s.next? with
    | some (c, s') =>
      if casing.normal x = casing.normal c then takeText casing expected s' else none
    | none => none

/-- The positions reached by taking characters of a set one after the other, at most `greatest`,
latest first before those already `reached`. -/
def charRun (set : CharSet) : List Char → Option Nat → Cursor → List Cursor → List Cursor
  | [], _, _, reached => reached
  | c :: rest, greatest, s, reached =>
    if greatest = some 0 then reached
    else if set.contains c then
      let s' := { s with pos := s.pos + 1, before := c :: s.before, after := rest }
      charRun set rest (greatest.map (· - 1)) s' (s' :: reached)
    else reached

end Cursor

/-- A condition holds at a position. A text without characters has no word boundary and no place
between two characters of one kind. -/
def Anchor.holds (s : Cursor) : Anchor → Bool
  | .textStart => s.before.isEmpty
  | .lineStart => s.before.isEmpty || s.before.head? == some '\n'
  | .textEnd => s.after.isEmpty
  | .finalLineEnd => s.after.isEmpty || s.after == ['\n']
  | .lineEnd => s.after.isEmpty || s.after.head? == some '\n'
  | .boundary ascii negated =>
    !(s.before.isEmpty && s.after.isEmpty) &&
      (negated != ((s.before.head?.any (Category.word.contains ascii)) !=
        (s.after.head?.any (Category.word.contains ascii))))

end ActionRouting.Regex
