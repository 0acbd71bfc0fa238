import ActionRouting.Text.Classes
import ActionRouting.Text.CaseRuns

/-! Upper case, lower case, and comparison of letters without regard to case. -/
namespace ActionRouting.Text

def lowerChar (c : Char) : Char :=
  if isAscii c then c.toLower
  else if c.toNat = 0x130 then 'i'
  else ((CaseRun.lookup CaseRun.lowering c.toNat).map Char.ofNat).getD c

/-- The upper case of one character, which may take several characters. -/
def upperChars (c : Char) : List Char :=
  if isAscii c then [c.toUpper]
  else match CaseRun.expansions.lookup c.toNat with
    | some image => image.map Char.ofNat
    | none => [((CaseRun.lookup CaseRun.raising c.toNat).map Char.ofNat).getD c]

/-- The upper case of one character as one character: the first of those that it takes. -/
def raiseChar (c : Char) : Char := (upperChars c).headD c

def upper (s : String) : String :=
  String.ofList (s.toList.flatMap upperChars)

/-- The first of the characters that is not a mark is a letter with case. -/
def meetsCased (cs : List Char) : Bool :=
  match cs.dropWhile Alphabet.caseIgnorable.contains with
  | [] => false
  | c :: _ => Alphabet.cased.contains c

/-- Lower case, character by character; `before` holds what was read, latest first. A capital sigma
that ends a word becomes a final sigma. -/
def lowerFrom (before : List Char) : List Char → List Char
  | [] => []
  | c :: cs =>
    let image :=
      if c.toNat = 0x3A3 then
        [Char.ofNat (if meetsCased before && !meetsCased cs then 0x3C2 else 0x3C3)]
      else if c.toNat = 0x130 then ['i', Char.ofNat 0x307]
      else [lowerChar c]
    image ++ lowerFrom (c :: before) cs

def lower (s : String) : String :=
  String.ofList (lowerFrom [] s.toList)

/-- The letter that stands for all letters equal to `c` when case is ignored. -/
def foldKey (c : Char) : Nat :=
  if isAscii c then c.toLower.toNat
  else (CaseRun.lookup CaseRun.folding c.toNat).getD c.toNat

/-- All code points whose `foldKey` is `k`. Three letters of ASCII have relatives outside it. -/
def foldClass (k : Nat) : List Nat :=
  if k = 0x69 then [0x69, 0x49, 0x130, 0x131]
  else if k = 0x6B then [0x6B, 0x4B, 0x212A]
  else if k = 0x73 then [0x73, 0x53, 0x17F]
  else if k < 128 then if 97 ≤ k && k ≤ 122 then [k, k - 32] else [k]
  else k :: CaseRun.folding.filterMap (·.preimage? k)

/-- The code points that a caseless comparison takes for `c`. -/
def caseVariants (c : Char) : List Nat := foldClass (foldKey c)

/-- The code points that a comparison caseless in ASCII alone takes for `c`. -/
def asciiCaseVariants (c : Char) : List Nat :=
  if c.isUpper then [c.toNat, c.toNat + 32]
  else if c.isLower then [c.toNat, c.toNat - 32]
  else [c.toNat]

example : "get".toList.flatMap upperChars = "GET".toList ∧
    lowerFrom [] "X-Id".toList = "x-id".toList := by decide
example : caseVariants 'A' = caseVariants 'a' ∧ caseVariants '/' = [47] := by decide

end ActionRouting.Text
