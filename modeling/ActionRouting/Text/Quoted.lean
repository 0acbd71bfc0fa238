import ActionRouting.Text.Classes

/-! Text and bytes as quoted literals. -/
namespace ActionRouting.Text.Quoted

def hexDigit (d : Nat) : Char :=
  if d < 10 then Char.ofNat (48 + d) else Char.ofNat (87 + d)

def hexDigits : Nat → Nat → List Char
  | 0, _ => []
  | count + 1, n => hexDigits count (n / 16) ++ [hexDigit (n % 16)]

/-- The quote that a literal takes: single, unless it would occur inside and the double would
not. -/
def quoteFor (codes : List Nat) : Nat :=
  if codes.contains 39 && !codes.contains 34 then 34 else 39

/-- The escape that a code point has under a quote, if it is one of the usual few. -/
def shortEscape? (quote n : Nat) : Option (List Char) :=
  if n = 92 then some ['\\', '\\']
  else if n = quote then some ['\\', Char.ofNat n]
  else if n = 10 then some ['\\', 'n']
  else if n = 13 then some ['\\', 'r']
  else if n = 9 then some ['\\', 't']
  else none

/-- A character inside a literal. One without a glyph is written by its code point, with the fewest
of two, four or eight digits that hold it. -/
def escapeChar (quote : Nat) (c : Char) : List Char :=
  match shortEscape? quote c.toNat with
  | some e => e
  | none =>
    if isPrintable c then [c]
    else if c.toNat < 0x100 then '\\' :: 'x' :: hexDigits 2 c.toNat
    else if c.toNat < 0x10000 then '\\' :: 'u' :: hexDigits 4 c.toNat
    else '\\' :: 'U' :: hexDigits 8 c.toNat

def text (s : String) : String :=
  let quote := quoteFor (s.toList.map Char.toNat)
  String.ofList (Char.ofNat quote :: s.toList.flatMap (escapeChar quote) ++ [Char.ofNat quote])

def escapeByte (quote : Nat) (b : UInt8) : List Char :=
  match shortEscape? quote b.toNat with
  | some e => e
  | none =>
    if 32 ≤ b.toNat && b.toNat < 127 then [Char.ofNat b.toNat]
    else '\\' :: 'x' :: hexDigits 2 b.toNat

/-- Bytes as a literal, marked by a letter before the quote. -/
def bytes (bs : List UInt8) : String :=
  let quote := quoteFor (bs.map UInt8.toNat)
  String.ofList ('b' :: Char.ofNat quote :: bs.flatMap (escapeByte quote) ++ [Char.ofNat quote])

/-- A character of a JSON text in ASCII: a code point beyond the first plane is written as two. -/
def jsonChar (c : Char) : List Char :=
  let n := c.toNat
  if n = 34 then ['\\', '"']
  else if n = 92 then ['\\', '\\']
  else if n = 10 then ['\\', 'n']
  else if n = 13 then ['\\', 'r']
  else if n = 9 then ['\\', 't']
  else if n = 8 then ['\\', 'b']
  else if n = 12 then ['\\', 'f']
  else if 32 ≤ n && n < 127 then [c]
  else if n < 0x10000 then '\\' :: 'u' :: hexDigits 4 n
  else
    '\\' :: 'u' :: hexDigits 4 (0xD800 + (n - 0x10000) / 0x400) ++
      '\\' :: 'u' :: hexDigits 4 (0xDC00 + (n - 0x10000) % 0x400)

def json (s : String) : String :=
  String.ofList ('"' :: s.toList.flatMap jsonChar ++ ['"'])

example : "it's\n".toList.flatMap (escapeChar 34) = "it's\\n".toList ∧ quoteFor [39] = 34 := by
  decide

end ActionRouting.Text.Quoted
