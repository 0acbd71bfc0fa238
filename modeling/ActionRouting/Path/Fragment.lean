import ActionRouting.Path.Param

/-! The parts of a path that are not copied when it becomes a regular expression. -/
namespace ActionRouting.Path

/-- A part of a path: a parameter, an escaped character, the opening of a capture group, a dot, or a
star that matches anything. -/
inductive Fragment
  | param (p : Param)
  | escape (c : Char)
  | group (name : Option (List Char))
  | dot
  | wildcard
  deriving DecidableEq, Repr

namespace Fragment

def write : Fragment → List Char
  | .param p => p.write
  | .escape c => ['\\', c]
  | .group none => ['(']
  | .group (some name) => ['(', '?', 'P', '<'] ++ name ++ ['>']
  | .dot => ['.']
  | .wildcard => ['*']

/-- Reads the opening of a capture group, its parenthesis read: a name between angle brackets, or
anything that is no question mark. -/
def readGroup : List Char → Option Fragment
  | '?' :: 'P' :: '<' :: cs =>
    let name := cs.takeWhile Text.isWord
    match cs.dropWhile Text.isWord with
    | '>' :: _ => if name.isEmpty then none else some (.group (some name))
    | _ => none
  | '?' :: _ => none
  | _ => some (.group none)

def read? (before : Option Char) (cs : List Char) : Option Fragment :=
  match Param.read? before cs with
  | some p => some (.param p)
  | none =>
    match cs with
    | '\\' :: c :: _ => if c = '\n' then none else some (.escape c)
    | '(' :: rest => readGroup rest
    | '.' :: _ => some .dot
    | '*' :: _ => some .wildcard
    | _ => none

def scanner : Text.Scanner Fragment := ⟨read?, write⟩

/-- The named parts of a fragment, in order, each with its text if it is there. -/
def parts (f : Fragment) : List (String × Option (List Char)) :=
  let absent : List (String × Option (List Char)) :=
    ["slash", "format", "name", "capture", "optional", "star"].map (·, none)
  let write := f.write
  match f with
  | .param p =>
    ("token", some write) :: p.parts ++
      [("escape", none), ("group", none), ("group_name", none), ("dot", none), ("wildcard", none)]
  | .escape _ =>
    ("token", none) :: absent ++
      [("escape", some write), ("group", none), ("group_name", none), ("dot", none),
        ("wildcard", none)]
  | .group name =>
    ("token", none) :: absent ++
      [("escape", none), ("group", some write), ("group_name", name), ("dot", none),
        ("wildcard", none)]
  | .dot =>
    ("token", none) :: absent ++
      [("escape", none), ("group", none), ("group_name", none), ("dot", some write),
        ("wildcard", none)]
  | .wildcard =>
    ("token", none) :: absent ++
      [("escape", none), ("group", none), ("group_name", none), ("dot", none),
        ("wildcard", some write)]

example : (scanner.tokens "/a(?P<n>x)\\*.(?:b)*".toList).map (·.1) = [2, 10, 12, 18] := by decide

end Fragment

end ActionRouting.Path
