import ActionRouting.Text.CharNames.Alphabetic
import ActionRouting.Text.CharNames.Ancient
import ActionRouting.Text.CharNames.Eastern
import ActionRouting.Text.CharNames.Forms
import ActionRouting.Text.CharNames.Further
import ActionRouting.Text.CharNames.Notations
import ActionRouting.Text.CharNames.Pictures
import ActionRouting.Text.CharNames.Signs
import ActionRouting.Text.CharNames.Syllabic
import ActionRouting.Text.CharNames.Symbols

/-! The names of all characters of Unicode 14. Most are listed; those of syllables and ideographs
are made by rule. -/
namespace ActionRouting.Text.CharName

/-- What follows a beginning of a text, if the text begins so. -/
def rest? (beginning : String) (cs : List Char) : Option (List Char) :=
  if beginning.toList.isPrefixOf cs then some (cs.drop beginning.length) else none

/-- The sounds that begin a syllable; one of them is silent. -/
def leads : List String :=
  ["G", "GG", "N", "D", "DD", "R", "M", "B", "BB", "S", "SS", "", "J", "JJ", "C", "K", "T", "P",
    "H"]

def vowels : List String :=
  ["A", "AE", "YA", "YAE", "EO", "E", "YEO", "YE", "O", "WA", "WAE", "OE", "YO", "U", "WEO", "WE",
    "WI", "YU", "EU", "YI", "I"]

/-- The sounds that end a syllable, or none. -/
def tails : List String :=
  ["", "G", "GG", "GS", "N", "NJ", "NH", "D", "L", "LG", "LM", "LB", "LS", "LT", "LP", "LH", "M",
    "B", "BS", "S", "SS", "NG", "J", "C", "K", "T", "P", "H"]

/-- The longest of some sounds that a text begins with: its place among them, and the text after
it. -/
def sound? (sounds : List String) (cs : List Char) : Option (Nat × List Char) :=
  let found := (sounds.zipIdx.filter fun p => p.1.toList.isPrefixOf cs).foldl
    (fun best p => match best with
      | some q => if q.1.length < p.1.length then some p else best
      | none => some p) (none : Option (String × Nat))
  found.map fun p => (p.2, cs.drop p.1.length)

/-- The syllable that a text spells. -/
def syllable? (cs : List Char) : Option Nat := do
  let (lead, cs) ← sound? leads cs
  let (vowel, cs) ← sound? vowels cs
  let (tail, cs) ← sound? tails cs
  if cs.isEmpty then some (0xAC00 + (lead * 21 + vowel) * 28 + tail) else none

def hexDigit? (c : Char) : Option Nat :=
  if c.isDigit then some (c.toNat - 48)
  else if 'A' ≤ c ∧ c ≤ 'F' then some (c.toNat - 55)
  else none

def hexNumber? (cs : List Char) : Option Nat :=
  if cs.length = 4 ∨ cs.length = 5 then
    (cs.mapM hexDigit?).map (·.foldl (fun n d => n * 16 + d) 0)
  else none

def isAmong (ranges : List (Nat × Nat)) (n : Nat) : Bool :=
  ranges.any fun r => r.1 ≤ n && n ≤ r.2

def ideographs : List (Nat × Nat) :=
  [(0x3400, 0x4DBF), (0x4E00, 0x9FFF), (0x20000, 0x2A6DF), (0x2A700, 0x2B738), (0x2B740, 0x2B81D),
    (0x2B820, 0x2CEA1), (0x2CEB0, 0x2EBE0), (0x30000, 0x3134A)]

/-- Other characters that are named by their code points: how the names begin, and the ranges. -/
def numbered : List (String × List (Nat × Nat)) :=
  [("CJK COMPATIBILITY IDEOGRAPH-", [(0xF900, 0xFA6D), (0xFA70, 0xFAD9), (0x2F800, 0x2FA1D)]),
    ("KHITAN SMALL SCRIPT CHARACTER-", [(0x18B00, 0x18CD5)]),
    ("NUSHU CHARACTER-", [(0x1B170, 0x1B2FB)])]

/-- The character whose name ends with its code point, written without a zero in front. -/
def numbered? (name : List Char) : Option Nat :=
  numbered.findSome? fun (beginning, ranges) => do
    let digits ← rest? beginning name
    let n ← hexNumber? digits
    if digits.head? ≠ some '0' && isAmong ranges n then some n else none

def listed : List (List NameRun) :=
  [alphabetic, symbols, further, syllabic, eastern, forms, ancient, signs, notations, pictures]

/-- A character that names are written with: a letter, a digit, or what stands between two words. -/
def isNameChar (c : Char) : Bool := c.isAlphanum || isSeparator c

/-- The code point of the character that has a name. Small letters count as capitals, except in the
names of syllables and of unified ideographs. -/
def code? (name : List Char) : Option Nat :=
  if !name.all isNameChar then none
  else match rest? "HANGUL SYLLABLE " name, rest? "CJK UNIFIED IDEOGRAPH-" name with
  | some cs, _ => syllable? cs
  | none, some cs => (hexNumber? cs).filter (isAmong ideographs)
  | none, none =>
    let name := name.map Char.toUpper
    match numbered? name with
    | some n => some n
    | none => listed.findSome? (·.findSome? (codeIn? (parts name)))

example : code? "HANGUL SYLLABLE GAG".toList = some 0xAC01 := by decide +kernel
example : code? "CJK UNIFIED IDEOGRAPH-4E00".toList = some 0x4E00 := by decide +kernel
example : code? "Colon".toList = some 58 := by decide +kernel

end ActionRouting.Text.CharName
