import ActionRouting.Path.Template

/-! Filling the capture groups of a regular expression with values, which turns its source into a
path. Groups are filled when they hold at most one level of further groups. -/
namespace ActionRouting.Regex.Template

/-- A part of a source that does not stand for itself: an anchor or a slash that may be missing at
the end, an escaped slash, another escaped mark, or a capture group. -/
inductive Part
  | edge (text : List Char)
  | slash
  | escaped (c : Char)
  | group (name : Option (List Char)) (text : List Char)
  deriving DecidableEq, Repr

namespace Part

def write : Part → List Char
  | .edge text => text
  | .slash => ['\\', '/']
  | .escaped c => ['\\', c]
  | .group _ text => text

/-- The dollar sign at the end of a text, or right before its last line break. -/
def atEnd : List Char → Bool
  | ['$'] => true
  | ['$', '\n'] => true
  | _ => false

/-- The dollar sign at the end, with the optional slash before it. -/
def readEnd (cs : List Char) : Option (List Char) :=
  match cs with
  | '\\' :: '/' :: '?' :: rest => if atEnd rest then some ['\\', '/', '?', '$'] else none
  | '/' :: '?' :: rest => if atEnd rest then some ['/', '?', '$'] else none
  | cs => if atEnd cs then some ['$'] else none

/-- The body of a group with its closing parenthesis; `inner` says that a group inside it is open.
Parentheses nest one level deep. -/
def body? : Bool → List Char → Option (List Char)
  | _, [] => none
  | false, ')' :: _ => some [')']
  | true, ')' :: cs => (body? false cs).map (')' :: ·)
  | false, '(' :: cs => (body? true cs).map ('(' :: ·)
  | true, '(' :: _ => none
  | inner, c :: cs => (body? inner cs).map (c :: ·)

/-- Reads a capture group, its parenthesis read. -/
def readGroup (cs : List Char) : Option Part :=
  match cs with
  | '?' :: 'P' :: '<' :: rest =>
    let name := rest.takeWhile Text.isWord
    match rest.dropWhile Text.isWord with
    | '>' :: rest =>
      if name.isEmpty then none
      else (body? false rest).map fun body =>
        .group (some name) (['(', '?', 'P', '<'] ++ name ++ '>' :: body)
    | _ => none
  | '?' :: _ => none
  | cs => (body? false cs).map fun body => .group none ('(' :: body)

def read? (before : Option Char) (cs : List Char) : Option Part :=
  match before, cs with
  | none, '^' :: _ => some (.edge ['^'])
  | _, cs =>
    match readEnd cs with
    | some text => some (.edge text)
    | none =>
      match cs with
      | '\\' :: '/' :: _ => some .slash
      | '\\' :: c :: _ => if Text.isWord c || Text.isBlank c then none else some (.escaped c)
      | '(' :: rest => readGroup rest
      | _ => none

def scanner : Text.Scanner Part := ⟨read?, write⟩

/-- The named texts of a part, in order, each if it is there. -/
def parts (p : Part) : List (String × Option (List Char)) :=
  let slash := match p with
    | .slash => some p.write
    | _ => none
  let escaped := match p with
    | .escaped _ => some p.write
    | _ => none
  let group := match p with
    | .group _ text => some text
    | _ => none
  let name := match p with
    | .group name _ => name
    | _ => none
  [("slash", slash), ("escaped", escaped), ("group", group), ("name", name)]

end Part

/-- What is left to fill: the number of the next group and the positional values not yet used. -/
structure Supply where
  nextGroup : Nat := 0
  positional : List Value

/-- The text of a part. A group takes the value of its name, else the next positional value, else it
is shown by its number. -/
def fillPart (named : OrderedMap Value) (supply : Supply) : Part → Supply × List Char
  | .edge _ => (supply, [])
  | .slash => (supply, ['/'])
  | .escaped c => (supply, [c])
  | .group name _ =>
    let later := supply.nextGroup + 1
    match name.bind fun name => Path.given? named (String.ofList name) with
    | some v => (⟨later, supply.positional⟩, Path.segment v)
    | none =>
      match supply.positional with
      | [] => (⟨later, []⟩, ':' :: Nat.toDigits 10 supply.nextGroup)
      | .null :: rest => (⟨later, rest⟩, ':' :: Nat.toDigits 10 supply.nextGroup)
      | v :: rest => (⟨later, rest⟩, Path.tail v)

/-- The path that the source of a regular expression gives when its groups are filled. -/
def fill (named : OrderedMap Value) (positional : List Value) (source : List Char) : List Char :=
  Part.scanner.replaceWith (fillPart named) ⟨0, positional⟩ source

end ActionRouting.Regex.Template
