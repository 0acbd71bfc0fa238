/-! Runs of evenly spaced code points that are mapped by one shift. -/
namespace ActionRouting.Text

/-- The code points `first + stride * i` for `i < count`, each sent to `target + stride * i`. -/
structure CaseRun where
  first : Nat
  count : Nat
  stride : Nat
  target : Nat

namespace CaseRun

/-- Where the run sends a code point, if it holds it. -/
def image? (r : CaseRun) (n : Nat) : Option Nat :=
  if r.first ≤ n ∧ n < r.first + r.stride * r.count ∧ (n - r.first) % r.stride = 0 then
    some (r.target + (n - r.first))
  else none

/-- The code point of the run that is sent to `n`, if there is one. -/
def preimage? (r : CaseRun) (n : Nat) : Option Nat :=
  if r.target ≤ n ∧ n < r.target + r.stride * r.count ∧ (n - r.target) % r.stride = 0 then
    some (r.first + (n - r.target))
  else none

def lookup (runs : List CaseRun) (n : Nat) : Option Nat :=
  runs.findSome? (·.image? n)

theorem preimage?_image? {r : CaseRun} {n m : Nat} (h : r.image? n = some m) :
    r.preimage? m = some n := by
  unfold image? at h
  split at h
  · next hn =>
    obtain ⟨h₁, h₂, h₃⟩ := hn
    obtain rfl := Option.some.inj h
    have e : r.target + (n - r.first) - r.target = n - r.first := by omega
    rw [preimage?, if_pos ⟨by omega, by omega, by rw [e]; exact h₃⟩, e]
    congr 1
    omega
  · cases h

end CaseRun

end ActionRouting.Text
