import ActionRouting.Value.Basic
import ActionRouting.Text.Shortest

/-! Equality of values across kinds of number, and sameness. -/
namespace ActionRouting.Value

/-- A finite number with a fraction equals a whole number. -/
def floatEqInt (x : Float) (i : Int) : Bool :=
  if x.isNaN || x.isInf then false
  else if x == 0 then i == 0
  else
    let b := Text.Shortest.Binary.ofBits x.toBits
    let (r, s) := Text.Shortest.power 2 b.exponent
    (x < 0) == decide (i < 0) && b.mantissa * r == i.natAbs * s

mutual

/-- Equality. Truth values count as the numbers one and zero; mappings do not depend on order. -/
def equal : Value → Value → Bool
  | null, null => true
  | bool a, bool b => a == b
  | bool a, int i => i == (if a then 1 else 0)
  | int i, bool a => i == (if a then 1 else 0)
  | bool a, float x => floatEqInt x (if a then 1 else 0)
  | float x, bool a => floatEqInt x (if a then 1 else 0)
  | int i, int j => i == j
  | int i, float x => floatEqInt x i
  | float x, int i => floatEqInt x i
  | float x, float y => x == y
  | text s, text t => s == t
  | bytes a, bytes b => a == b
  | list a, list b => equalItems a b
  | tuple a, tuple b => equalItems a b
  | mapping a, mapping b => a.length == b.length && equalFields a b
  | _, _ => false

def equalItems : List Value → List Value → Bool
  | [], [] => true
  | a :: as, b :: bs => equal a b && equalItems as bs
  | _, _ => false

/-- Each field has an equal value in another mapping. -/
def equalFields : List (String × Value) → List (String × Value) → Bool
  | [], _ => true
  | (key, a) :: fields, other =>
    (match OrderedMap.get? key other with
      | some b => equal a b
      | none => false) && equalFields fields other

end

/-- There is one object for each of these values, however often it is made: nothing, the truth
values, small numbers, and texts, bytes and tuples that are empty or hold one short character. -/
def isShared : Value → Bool
  | null => true
  | bool _ => true
  | int i => -5 ≤ i && i ≤ 256
  | text s => s.length ≤ 1 && s.toList.all (·.toNat < 256)
  | bytes bs => bs.length ≤ 1
  | tuple items => items.isEmpty
  | _ => false

/-- Two values made apart are one object. -/
def same : Value → Value → Bool
  | null, null => true
  | bool a, bool b => a == b
  | int i, int j => i == j && isShared (int i)
  | text s, text t => s == t && isShared (text s)
  | bytes a, bytes b => a == b && isShared (bytes a)
  | tuple [], tuple [] => true
  | _, _ => false

end ActionRouting.Value
