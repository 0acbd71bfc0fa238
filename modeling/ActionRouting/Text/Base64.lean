/-! Base 64. Writing pads every text to whole groups of four; reading skips foreign characters and
stops at the padding that completes a group. -/
namespace ActionRouting.Text.Base64

def digitChar (d : Nat) : Char :=
  if d < 26 then Char.ofNat (65 + d)
  else if d < 52 then Char.ofNat (97 + (d - 26))
  else if d < 62 then Char.ofNat (48 + (d - 52))
  else if d = 62 then '+' else '/'

def digit? (n : Nat) : Option Nat :=
  if 65 ≤ n ∧ n ≤ 90 then some (n - 65)
  else if 97 ≤ n ∧ n ≤ 122 then some (n - 97 + 26)
  else if 48 ≤ n ∧ n ≤ 57 then some (n - 48 + 52)
  else if n = 43 then some 62
  else if n = 47 then some 63
  else none

/-- Three bytes make four characters; the last group is padded. -/
def encode : List UInt8 → List Char
  | [] => []
  | [a] => [digitChar (a.toNat / 4), digitChar (a.toNat % 4 * 16), '=', '=']
  | [a, b] =>
    [digitChar (a.toNat / 4), digitChar (a.toNat % 4 * 16 + b.toNat / 16),
      digitChar (b.toNat % 16 * 4), '=']
  | a :: b :: c :: rest =>
    digitChar (a.toNat / 4) :: digitChar (a.toNat % 4 * 16 + b.toNat / 16) ::
      digitChar (b.toNat % 16 * 4 + c.toNat / 64) :: digitChar (c.toNat % 64) :: encode rest

/-- Reads on from inside a group: `place` digits of it were read, `left` holds the bits of the last
one that belong to the next byte, and `pads` counts the padding since. Foreign characters are
skipped. `none` means that the text ends inside a group. -/
def decodeFrom (place left pads : Nat) : List Nat → Option (List UInt8)
  | [] => if place = 0 then some [] else none
  | n :: rest =>
    if n = 61 then
      if 2 ≤ place ∧ 4 ≤ place + (pads + 1) then some []
      else decodeFrom place left (if 2 ≤ place then pads + 1 else pads) rest
    else match digit? n with
      | none => decodeFrom place left pads rest
      | some d =>
        if place = 0 then decodeFrom 1 d 0 rest
        else if place = 1 then
          (decodeFrom 2 (d % 16) 0 rest).map ((left * 4 + d / 16).toUInt8 :: ·)
        else if place = 2 then
          (decodeFrom 3 (d % 4) 0 rest).map ((left * 16 + d / 4).toUInt8 :: ·)
        else (decodeFrom 0 0 0 rest).map ((left * 64 + d).toUInt8 :: ·)

/-- The bytes that a text in base 64 stands for; its characters are given as code points. -/
def decode? (codes : List Nat) : Option (List UInt8) := decodeFrom 0 0 0 codes

example : encode [102, 111] = "Zm8=".toList ∧ decode? [90, 109, 56, 61] = some [102, 111] := by
  decide

end ActionRouting.Text.Base64
