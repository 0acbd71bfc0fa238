import ActionRouting.Text.Scan

/-! Greedy proxy resources, `/{proxy+}`: the last part of a resource that takes the rest of a
path. -/
namespace ActionRouting.Gateway

/-- A greedy proxy part, by the name of its parameter. -/
structure GreedyProxy where
  name : List Char
  deriving DecidableEq, Repr

namespace GreedyProxy

def write (p : GreedyProxy) : List Char := ['/', '\x7b'] ++ p.name ++ ['+', '\x7d']

/-- A text without one line break at its end. -/
def chomp : List Char → List Char
  | [] => []
  | ['\n'] => []
  | c :: cs => c :: chomp cs

/-- Reads the part at the front of a text. It has to reach to the end, and its name is the longest
text without a line break that lets it. -/
def read? (_ : Option Char) (cs : List Char) : Option GreedyProxy :=
  match cs with
  | '/' :: '\x7b' :: rest =>
    match (chomp rest).reverse with
    | '\x7d' :: '+' :: name =>
      if name.isEmpty || name.contains '\n' then none else some ⟨name.reverse⟩
    | _ => none
  | _ => none

def scanner : Text.Scanner GreedyProxy := ⟨read?, write⟩

def find? (resource : List Char) : Option GreedyProxy := (scanner.tokens resource).head?.map (·.2)

def strip (resource : List Char) : List Char := scanner.replace (fun _ => []) resource

example : find? "/api/\x7bproxy+\x7d".toList = some ⟨"proxy".toList⟩ ∧
    strip "/api/\x7bproxy+\x7d".toList = "/api".toList := by decide

end GreedyProxy

end ActionRouting.Gateway
