import ActionRouting.Text.Utf8

/-! Percent coding of text inside a URL. -/
namespace ActionRouting.Text.Percent

/-- A character that stands for itself everywhere in a URL. -/
def isUnreserved (c : Char) : Bool :=
  c.isAlphanum || c == '_' || c == '.' || c == '-' || c == '~'

def hexDigit (d : Nat) : Char :=
  if d < 10 then Char.ofNat (48 + d) else Char.ofNat (55 + d)

def hexValue? (c : Char) : Option Nat :=
  if c.isDigit then some (c.toNat - 48)
  else if 'A' ≤ c ∧ c ≤ 'F' then some (c.toNat - 55)
  else if 'a' ≤ c ∧ c ≤ 'f' then some (c.toNat - 87)
  else none

def escapeByte (b : UInt8) : List Char :=
  ['%', hexDigit (b.toNat / 16), hexDigit (b.toNat % 16)]

/-- A character, escaped unless it is unreserved or declared safe. -/
def encodeChar (safe : Char → Bool) (c : Char) : List Char :=
  if isUnreserved c || safe c then [c] else (Utf8.encodeChar c).flatMap escapeByte

/-- A text, escaped but for its unreserved and safe characters. -/
def encode (safe : Char → Bool) (cs : List Char) : List Char :=
  cs.flatMap (encodeChar safe)

/-- One segment of a path: even a slash is escaped. -/
def encodeSegment (cs : List Char) : List Char := encode (fun _ => false) cs

/-- The rest of a path: slashes stay. -/
def encodePath (cs : List Char) : List Char := encode (· == '/') cs

/-- Decodes a text; `pending` holds the bytes of the current run of ASCII, latest first. A percent
sign without two digits after it stands for itself. -/
def decodeFrom (pending : List UInt8) : List Char → List Char
  | [] => Utf8.decodeLossy pending.reverse
  | c :: cs =>
    match c, cs with
    | '%', a :: b :: rest =>
      match hexValue? a, hexValue? b with
      | some x, some y => decodeFrom ((x * 16 + y).toUInt8 :: pending) rest
      | _, _ => decodeFrom (37 :: pending) (a :: b :: rest)
    | c, cs =>
      if c.toNat < 128 then decodeFrom (c.toNat.toUInt8 :: pending) cs
      else Utf8.decodeLossy pending.reverse ++ c :: decodeFrom [] cs

def decode (cs : List Char) : List Char := decodeFrom [] cs

example : encodeSegment "a/é".toList = "a%2F%C3%A9".toList := by decide
example : decode "a%2f%C3%A9%4".toList = "a/é%4".toList := by decide

end ActionRouting.Text.Percent
