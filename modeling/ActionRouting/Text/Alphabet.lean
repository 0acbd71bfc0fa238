/-! Sets of code points, kept as the ascending points where membership changes. -/
namespace ActionRouting.Text

/-- A set of code points: one belongs to it when an odd number of boundaries do not exceed it. -/
structure Alphabet where
  boundaries : Array Nat

namespace Alphabet

/-- The number of boundaries that do not exceed `n`, sought by halving the window from `lo` to
`hi`. -/
def rankIn (boundaries : Array Nat) (n : Nat) : Nat → Nat → Nat → Nat
  | 0, lo, _ => lo
  | fuel + 1, lo, hi =>
    if lo < hi then
      let middle := (lo + hi) / 2
      if boundaries.getD middle 0 ≤ n then rankIn boundaries n fuel (middle + 1) hi
      else rankIn boundaries n fuel lo middle
    else lo

/-- The number of boundaries that do not exceed `n`; halving ends long before the fuel does. -/
def rank (a : Alphabet) (n : Nat) : Nat :=
  rankIn a.boundaries n a.boundaries.size 0 a.boundaries.size

def contains (a : Alphabet) (c : Char) : Bool :=
  a.rank c.toNat % 2 == 1

/-- The first of the members in a row up to a member. -/
def firstOfRun (a : Alphabet) (c : Char) : Nat := a.boundaries.getD (a.rank c.toNat - 1) 0

example : (Alphabet.mk #[97, 123]).contains 'm' ∧ ¬ (Alphabet.mk #[97, 123]).contains 'M' := by
  decide

end Alphabet

end ActionRouting.Text
