import ActionRouting.Text.Classes
import ActionRouting.Text.Scan

/-! Parameter tokens of a path: `/:id`, `.:format`, `/:id(\d+)`, `/:other?`, `/:path*`. -/
namespace ActionRouting.Path

/-- A parameter token. Its capture is a parenthesised regular expression, kept with its
parentheses. -/
structure Param where
  slash : Bool
  dot : Bool
  name : List Char
  capture : Option (List Char)
  optional : Bool
  star : Bool
  deriving DecidableEq, Repr

namespace Param

def write (p : Param) : List Char :=
  (if p.slash then ['/'] else []) ++ (if p.dot then ['.'] else []) ++ ':' :: p.name ++
    p.capture.getD [] ++ (if p.optional then ['?'] else []) ++ (if p.star then ['*'] else [])

/-- A character may be there, and is taken if it is. -/
def eat (c : Char) : List Char → Bool × List Char
  | [] => (false, [])
  | d :: cs => if d = c then (true, cs) else (false, d :: cs)

/-- The parenthesised text at the front, up to the first closing parenthesis of its line. -/
def capture? : List Char → Option (List Char)
  | '(' :: cs =>
    match cs.dropWhile fun c => c != ')' && c != '\n' with
    | ')' :: _ => some ('(' :: (cs.takeWhile fun c => c != ')' && c != '\n') ++ [')'])
    | _ => none
  | _ => none

/-- Reads what follows the colon. -/
def readTail (slash dot : Bool) (cs : List Char) : Option Param :=
  let name := cs.takeWhile Text.isWord
  if name.isEmpty then none
  else
    let rest := cs.dropWhile Text.isWord
    let capture := capture? rest
    let (optional, rest) := eat '?' (rest.drop (capture.getD []).length)
    let (star, _) := eat '*' rest
    some { slash, dot, name, capture, optional, star }

/-- Reads the token at the front of a text. A colon right after a question mark begins none, so that
`(?:` stays what it is. -/
def read? (before : Option Char) (cs : List Char) : Option Param :=
  let (slash, cs) := eat '/' cs
  let (dot, cs) := eat '.' cs
  match cs with
  | ':' :: rest => if !slash && !dot && before == some '?' then none else readTail slash dot rest
  | _ => none

def scanner : Text.Scanner Param := ⟨read?, write⟩

/-- The named parts of a token, in order, each with its text if it is there. -/
def parts (p : Param) : List (String × Option (List Char)) :=
  [("slash", if p.slash then some ['/'] else none), ("format", if p.dot then some ['.'] else none),
    ("name", some p.name), ("capture", p.capture),
    ("optional", if p.optional then some ['?'] else none),
    ("star", if p.star then some ['*'] else none)]

example : (scanner.tokens "/a/:id(\\d+)?.:f".toList).map (fun t => (t.1, t.2.name)) =
    [(2, ['i', 'd']), (12, ['f'])] := by decide

end Param

end ActionRouting.Path
