/-! Text as bytes in UTF-8. Bytes that are no text are reported one ill-formed piece at a time. -/
namespace ActionRouting.Text.Utf8

/-- The bytes of one character, one to four of them. -/
def encodeChar (c : Char) : List UInt8 :=
  let n := c.toNat
  if n < 0x80 then [n.toUInt8]
  else if n < 0x800 then [(0xC0 + n / 64).toUInt8, (0x80 + n % 64).toUInt8]
  else if n < 0x10000 then
    [(0xE0 + n / 4096).toUInt8, (0x80 + n / 64 % 64).toUInt8, (0x80 + n % 64).toUInt8]
  else
    [(0xF0 + n / 262144).toUInt8, (0x80 + n / 4096 % 64).toUInt8, (0x80 + n / 64 % 64).toUInt8,
      (0x80 + n % 64).toUInt8]

def encode (cs : List Char) : List UInt8 := cs.flatMap encodeChar

/-- Reads `need` further bytes of a character whose bits so far are `bits`; the next byte has to lie
between `lo` and `hi`. An ill-formed piece ends before the byte that breaks it. -/
def continuation (need lo hi bits : Nat) (bytes : List UInt8) : Option Char × List UInt8 :=
  match need, bytes with
  | 0, bytes => (some (Char.ofNat bits), bytes)
  | need + 1, b :: bytes =>
    if lo ≤ b.toNat ∧ b.toNat ≤ hi then
      continuation need 0x80 0xBF (bits * 64 + (b.toNat - 0x80)) bytes
    else (none, b :: bytes)
  | _ + 1, [] => (none, [])

/-- The character or ill-formed piece that `first` begins, and the bytes after it. -/
def decodeChar (first : UInt8) (bytes : List UInt8) : Option Char × List UInt8 :=
  let n := first.toNat
  if n < 0x80 then (some (Char.ofNat n), bytes)
  else if n < 0xC2 then (none, bytes)
  else if n < 0xE0 then continuation 1 0x80 0xBF (n - 0xC0) bytes
  else if n < 0xF0 then
    continuation 2 (if n = 0xE0 then 0xA0 else 0x80) (if n = 0xED then 0x9F else 0xBF) (n - 0xE0)
      bytes
  else if n < 0xF5 then
    continuation 3 (if n = 0xF0 then 0x90 else 0x80) (if n = 0xF4 then 0x8F else 0xBF) (n - 0xF0)
      bytes
  else (none, bytes)

/-- The pieces of a byte string, with `none` for each ill-formed one. -/
def pieces : Nat → List UInt8 → List (Option Char)
  | 0, _ => []
  | _ + 1, [] => []
  | fuel + 1, b :: bytes =>
    let (c, rest) := decodeChar b bytes
    c :: pieces fuel rest

/-- The text that the bytes spell, if they spell one. -/
def decode? (bytes : List UInt8) : Option (List Char) :=
  (pieces bytes.length bytes).mapM id

/-- The text of the bytes, with a replacement character for each ill-formed piece. -/
def decodeLossy (bytes : List UInt8) : List Char :=
  (pieces bytes.length bytes).map (·.getD (Char.ofNat 0xFFFD))

/-- A surrogate, half of a pair that stands for one character elsewhere: alone it is none. -/
def isSurrogate (n : Nat) : Bool := 0xD800 ≤ n && n ≤ 0xDFFF

/-- A text with a surrogate in it, by its code points. No bytes spell it. -/
structure Torn where
  codes : List Nat
  isTorn : codes.any isSurrogate
  deriving DecidableEq, Repr

example : encode "aé".toList = [0x61, 0xC3, 0xA9] ∧ decode? [0xC3, 0xA9] = some ['é'] := by decide
example : decodeLossy [0xE2, 0x82, 0x41] = [Char.ofNat 0xFFFD, 'A'] := by decide

end ActionRouting.Text.Utf8
