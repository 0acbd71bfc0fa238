import ActionRouting.Path.Pattern
import ActionRouting.Text.Percent

/-! Filling the parameters of a path with values. -/
namespace ActionRouting.Path

/-- A slash and a star in a filled path, which stand for the rest of the path. -/
def trailingStar : Text.Scanner Unit where
  read?
    | _, '/' :: '*' :: _ => some ()
    | _, _ => none
  write _ := ['/', '*']

/-- The value of a name, unless it is nothing. -/
def given? (named : OrderedMap Value) (name : String) : Option Value :=
  match OrderedMap.get? name named with
  | some .null => none
  | v => v

def segment (v : Value) : List Char := Text.Percent.encodeSegment v.display.toList

/-- A value as the rest of a path. -/
def tail (v : Value) : List Char := Text.Percent.encodePath v.display.toList

/-- A parameter with its value. Without one, an optional parameter leaves its slash alone and a
required one stays as it is written. -/
def fillParam (named : OrderedMap Value) (p : Param) : List Char :=
  let slash := if p.slash then ['/'] else []
  match given? named (String.ofList p.name) with
  | some v => slash ++ (if p.dot then ['.'] else []) ++ segment v
  | none => if p.optional then slash else p.write

/-- The rest of a path: the value named by a star, else all positional values, which are then used
up, else nothing but itself. -/
def fillStar (named : OrderedMap Value) (positional : List Value) (_ : Unit) :
    List Value × List Char :=
  match given? named "*" with
  | some v => (positional, '/' :: tail v)
  | none =>
    if positional.isEmpty then ([], ['/', '*'])
    else ([], '/' :: ['/'].intercalate (positional.map tail))

def fill (named : OrderedMap Value) (positional : List Value) (path : List Char) : List Char :=
  trailingStar.replaceWith (fillStar named) positional
    (Param.scanner.replace (fillParam named) path)

end ActionRouting.Path
