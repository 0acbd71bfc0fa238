/-! The shortest decimal text of a binary floating-point number. The digits are the fewest that lie
nearer to the number than to any other, and of those the nearest. -/
namespace ActionRouting.Text.Shortest

/-- A positive number `mantissa * 2 ^ exponent`, and whether the number below it is half as far away
as the number above. -/
structure Binary where
  mantissa : Nat
  exponent : Int
  tight : Bool
  deriving DecidableEq, Repr

/-- Digits `coefficient` with the last of them at the place `exponent`. -/
structure Decimal where
  coefficient : Nat
  exponent : Int
  deriving DecidableEq, Repr

/-- The finite, nonzero number with these bits, its sign left out. -/
def Binary.ofBits (bits : UInt64) : Binary :=
  let fraction : Nat := bits.toNat % Nat.pow 2 52
  let power : Nat := bits.toNat / Nat.pow 2 52 % Nat.pow 2 11
  if power = 0 then ⟨fraction, -1074, false⟩
  else ⟨Nat.pow 2 52 + fraction, (power : Int) - 1075, fraction = 0 && power > 1⟩

/-- A power with a possibly negative exponent, as numerator and denominator. -/
def power (base : Nat) (e : Int) : Nat × Nat :=
  if 0 ≤ e then (Nat.pow base e.toNat, 1) else (1, Nat.pow base (-e).toNat)

/-- `a / b < c / d`, or `≤` where ends count. -/
def below (ends : Bool) (a b c d : Nat) : Bool :=
  if ends then a * d ≤ c * b else a * d < c * b

/-- A decimal lies in the interval of reals that round to a binary number. Its ends belong to it
when the mantissa is even. -/
def inInterval (x : Binary) (d : Decimal) : Bool :=
  let (p, q) := power 10 d.exponent
  let (r, s) := power 2 (x.exponent - 2)
  let ends := x.mantissa % 2 == 0
  let low := if x.tight then 4 * x.mantissa - 1 else 4 * x.mantissa - 2
  below ends (low * r) s (d.coefficient * p) q &&
    below ends (d.coefficient * p) q ((4 * x.mantissa + 2) * r) s

/-- The multiple of a power of ten next below a binary number, and whether the number lies above the
middle of that multiple and the next, or in the middle. -/
def gridBelow (x : Binary) (place : Int) : Nat × Ordering :=
  let (p, q) := power 10 place
  let (r, s) := power 2 x.exponent
  let numerator := x.mantissa * r * q
  let denominator := s * p
  let rest := numerator % denominator
  (numerator / denominator, compare (2 * rest) denominator)

/-- The nearest decimal at a place that rounds to a binary number, a tie going to the even one. -/
def atPlace? (x : Binary) (place : Int) : Option Decimal :=
  let (low, side) := gridBelow x place
  let a : Decimal := ⟨low, place⟩
  let b : Decimal := ⟨low + 1, place⟩
  let preferLow := side == .lt || side == .eq && low % 2 == 0
  match inInterval x a, inInterval x b with
  | true, true => some (if preferLow then a else b)
  | true, false => some a
  | false, true => some b
  | false, false => none

def digitCount (n : Nat) : Nat := (Nat.toDigits 10 n).length

/-- The place of the first digit of a binary number. -/
def leadingPlace (x : Binary) : Int :=
  let (r, s) := power 2 x.exponent
  let n := x.mantissa * r
  let guess : Int := (digitCount n : Int) - digitCount s
  let (p, q) := power 10 guess
  if p * s ≤ n * q then guess else guess - 1

/-- The shortest decimal: one digit is tried first, and seventeen are always enough. -/
def shortest (x : Binary) : Decimal :=
  let top := leadingPlace x
  ((List.range 17).findSome? fun (n : Nat) => atPlace? x (top - n)).getD ⟨x.mantissa, 0⟩

/-- Zeros at the end carry no digits. -/
def trim : Nat → Decimal → Decimal
  | 0, d => d
  | fuel + 1, d =>
    if d.coefficient % 10 = 0 ∧ d.coefficient ≠ 0 then
      trim fuel ⟨d.coefficient / 10, d.exponent + 1⟩
    else d

def zeros (n : Nat) : List Char := List.replicate n '0'

/-- The exponent of a number in scientific form: signed, of two digits or more. -/
def exponentText (e : Int) : List Char :=
  let digits := Nat.toDigits 10 e.natAbs
  (if e < 0 then '-' else '+') :: (if digits.length < 2 then '0' :: digits else digits)

/-- Numbers from one ten-thousandth to below ten to the sixteenth are written out, with a point and
a digit after it; others take an exponent. -/
def layout (d : Decimal) : List Char :=
  let digits := Nat.toDigits 10 d.coefficient
  let point : Int := d.exponent + digits.length
  if -4 < point ∧ point ≤ 16 then
    if point ≤ 0 then ['0', '.'] ++ zeros (-point).toNat ++ digits
    else if digits.length ≤ point.toNat then
      digits ++ zeros (point.toNat - digits.length) ++ ['.', '0']
    else digits.take point.toNat ++ '.' :: digits.drop point.toNat
  else
    match digits with
    | [] => []
    | first :: rest =>
      first :: (if rest.isEmpty then [] else '.' :: rest) ++ 'e' :: exponentText (point - 1)

/-- The text of a number, given the texts of what is not a number and of infinity. -/
def textWith (nan infinity : String) (x : Float) : String :=
  let bits := x.toBits
  let sign := if bits.toNat / Nat.pow 2 63 = 1 then "-" else ""
  if x.isNaN then nan
  else if x.isInf then sign ++ infinity
  else if bits.toNat % Nat.pow 2 63 = 0 then sign ++ "0.0"
  else sign ++ String.ofList (layout (trim 20 (shortest (.ofBits bits))))

def text (x : Float) : String := textWith "nan" "inf" x

def json (x : Float) : String := textWith "NaN" "Infinity" x

example : layout ⟨15, -1⟩ = "1.5".toList ∧ layout ⟨1, 22⟩ = "1e+22".toList ∧
    layout ⟨1, -5⟩ = "1e-05".toList ∧ layout ⟨1, 15⟩ = "1000000000000000.0".toList := by decide

end ActionRouting.Text.Shortest
