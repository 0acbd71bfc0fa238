/-! Finding and removing a part of a text. -/
namespace ActionRouting.Text

def occurs (part : List Char) : List Char → Bool
  | [] => part.isEmpty
  | c :: cs => part.isPrefixOf (c :: cs) || occurs part cs

/-- The text without the occurrences of a part, found from left to right; `skip` characters at the
front belong to one found already. -/
def removeFrom (part : List Char) : Nat → List Char → List Char
  | _, [] => []
  | skip + 1, _ :: cs => removeFrom part skip cs
  | 0, c :: cs =>
    if !part.isEmpty && part.isPrefixOf (c :: cs) then removeFrom part (part.length - 1) cs
    else c :: removeFrom part 0 cs

def remove (part cs : List Char) : List Char := removeFrom part 0 cs

example : occurs "bc".toList "abcd".toList ∧ remove "ab".toList "aababx".toList = "ax".toList := by
  decide

end ActionRouting.Text
