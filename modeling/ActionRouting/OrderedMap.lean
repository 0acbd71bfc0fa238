/-! Maps that keep the order in which their keys were first given. -/
namespace ActionRouting

/-- A map from text, as its pairs in order. -/
abbrev OrderedMap (β : Type) := List (String × β)

namespace OrderedMap

variable {β : Type}

def get? (key : String) : OrderedMap β → Option β
  | [] => none
  | (k, v) :: rest => if k = key then some v else get? key rest

/-- Gives a key a value: in its place if the map has it, else at the end. -/
def insert (key : String) (value : β) : OrderedMap β → OrderedMap β
  | [] => [(key, value)]
  | (k, v) :: rest => if k = key then (k, value) :: rest else (k, v) :: insert key value rest

def keys (m : OrderedMap β) : List String := m.map (·.1)

/-- Gives the keys of one map their values in another. -/
def insertAll (pairs : List (String × β)) (m : OrderedMap β) : OrderedMap β :=
  pairs.foldl (fun m p => insert p.1 p.2 m) m

/-- The map of a list of pairs; the last value of a key counts. -/
def ofPairs (pairs : List (String × β)) : OrderedMap β := insertAll pairs []

@[simp] theorem get?_insert_self (key : String) (value : β) (m : OrderedMap β) :
    get? key (insert key value m) = some value := by
  induction m with
  | nil => simp [insert, get?]
  | cons p rest ih => by_cases h : p.1 = key <;> simp [insert, get?, h, ih]

theorem get?_insert_of_ne {key other : String} (h : key ≠ other) (value : β) (m : OrderedMap β) :
    get? other (insert key value m) = get? other m := by
  induction m with
  | nil => simp [insert, get?, h]
  | cons p rest ih =>
    by_cases hk : p.1 = key
    · simp [insert, get?, hk, h]
    · simp [insert, get?, hk, ih]

theorem keys_insert (key : String) (value : β) (m : OrderedMap β) :
    keys (insert key value m) = if key ∈ keys m then keys m else keys m ++ [key] := by
  induction m with
  | nil => simp [insert, keys]
  | cons p rest ih =>
    by_cases hk : p.1 = key
    · simp [insert, keys, hk]
    · have hk' : ¬ key = p.1 := fun h => hk h.symm
      simp only [keys] at ih
      by_cases hm : key ∈ rest.map (·.1) <;> simp_all [insert, keys]

theorem get?_eq_none_iff {key : String} {m : OrderedMap β} : get? key m = none ↔ key ∉ keys m := by
  induction m with
  | nil => simp [get?, keys]
  | cons p rest ih =>
    by_cases hk : p.1 = key
    · simp [get?, keys, hk]
    · have hk' : ¬ key = p.1 := fun h => hk h.symm
      simpa [get?, keys, hk, hk'] using ih

example : ofPairs [("a", 1), ("b", 2), ("a", 3)] = [("a", 3), ("b", 2)] := by decide

end OrderedMap

end ActionRouting
