/-! Characters by name. The names of consecutive characters are kept in one text, cut into lines:
each name follows a small letter that says how many parts it shares with the name before it, from
none for `a` on. -/
namespace ActionRouting.Text

/-- The names of consecutive code points from `first` on. -/
structure NameRun where
  first : Nat
  names : List String

namespace CharName

def isSeparator (c : Char) : Bool := c == ' ' || c == '-'

/-- The parts of a name: its words, each with the blank or the hyphen before it. -/
def parts : List Char → List (List Char)
  | [] => []
  | c :: cs =>
    match parts cs with
    | [] => [[c]]
    | part :: rest =>
      if part.head?.any isSeparator then [c] :: part :: rest else (c :: part) :: rest

/-- Cuts the text of a run before each small letter, into the number that the letter stands for and
what follows it. -/
def entries (cs : List Char) : List (Nat × List Char) :=
  (cs.foldr (fun c (text, found) =>
    if c.isLower then ([], (c.toNat - 97, text) :: found) else (c :: text, found)) ([], [])).2

/-- The name that shares `shared` parts with another and goes on with a text. Unless the text says
otherwise, a blank is between them. -/
def following (before : List (List Char)) (shared : Nat) (text : List Char) : List (List Char) :=
  before.take shared ++
    parts (if shared = 0 || text.head?.any isSeparator then text else ' ' :: text)

/-- The place of a name among entries, counted on from `n`. -/
def place? (name : List (List Char)) :
    Nat → List (List Char) → List (Nat × List Char) → Option Nat
  | _, _, [] => none
  | n, before, (shared, text) :: rest =>
    let current := following before shared text
    if current = name then some n else place? name (n + 1) current rest

def codeIn? (name : List (List Char)) (r : NameRun) : Option Nat :=
  place? name r.first [] (entries (r.names.flatMap String.toList))

example : codeIn? (parts "DIGIT TWO".toList) ⟨48, ["aDIGIT ZERO", "bONEbTWO"]⟩ = some 50 := by
  decide +kernel

end CharName

end ActionRouting.Text
