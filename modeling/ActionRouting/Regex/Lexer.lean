import ActionRouting.Regex.Token
import ActionRouting.Text.CharNames

/-! Cutting the text of a regular expression into its lexical parts. -/
namespace ActionRouting.Regex

def isOctal (c : Char) : Bool := '0' ≤ c && c ≤ '7'

def hexValue? (c : Char) : Option Nat :=
  if c.isDigit then some (c.toNat - 48)
  else if 'a' ≤ c ∧ c ≤ 'f' then some (c.toNat - 87)
  else if 'A' ≤ c ∧ c ≤ 'F' then some (c.toNat - 55)
  else none

def numeral (base : Nat) (digits : List Nat) : Nat :=
  digits.foldl (fun n d => n * base + d) 0

def decimal (digits : List Char) : Nat := numeral 10 (digits.map (·.toNat - 48))

def octal (digits : List Char) : Nat := numeral 8 (digits.map (·.toNat - 48))

/-- Reads a code point of exactly `size` hexadecimal digits. -/
def readHex (size : Nat) (cs : List Char) : Except Error (Nat × List Char) :=
  match (cs.take size).mapM hexValue? with
  | some digits =>
    if digits.length = size then .ok (numeral 16 digits, cs.drop size) else .error .badEscape
  | none => .error .badEscape

/-- Reads what a backslash and one of `x`, `u`, `U` announce; a code point ends at 0x10FFFF. -/
def readCodePoint (kind : Char) (cs : List Char) : Except Error (Nat × List Char) := do
  let (n, rest) ← readHex (if kind = 'x' then 2 else if kind = 'u' then 4 else 8) cs
  if n < 0x110000 then .ok (n, rest) else .error .badEscape

def readNamed : List Char → Except Error (Nat × List Char)
  | '{' :: cs =>
    match Text.CharName.code? (cs.takeWhile (· ≠ '}')), cs.dropWhile (· ≠ '}') with
    | some n, _ :: rest => .ok (n, rest)
    | _, _ => .error .unknownCharName
  | _ => .error .unknownCharName

/-- The code point of a control character written with a letter. -/
def control? : Char → Option Nat
  | 'a' => some 7
  | 'f' => some 12
  | 'n' => some 10
  | 'r' => some 13
  | 't' => some 9
  | 'v' => some 11
  | _ => none

/-- The class of characters written with a letter; a capital stands for the complement. -/
def category? : Char → Option Member
  | 'd' => some (.category .decimal false)
  | 'D' => some (.category .decimal true)
  | 's' => some (.category .blank false)
  | 'S' => some (.category .blank true)
  | 'w' => some (.category .word false)
  | 'W' => some (.category .word true)
  | _ => none

/-- Reads an escape inside a set, its backslash read. -/
def readSetEscape : List Char → Except Error (Member × List Char)
  | [] => .error .badEscape
  | c :: cs =>
    if c = 'b' then .ok (.char 8, cs)
    else match control? c, category? c with
      | some n, _ => .ok (.char n, cs)
      | none, some m => .ok (m, cs)
      | none, none =>
        if c = 'x' ∨ c = 'u' ∨ c = 'U' then do
          let (n, rest) ← readCodePoint c cs
          .ok (.char n, rest)
        else if c = 'N' then do
          let (n, rest) ← readNamed cs
          .ok (.char n, rest)
        else if isOctal c then
          let digits := c :: (cs.take 2).takeWhile isOctal
          let n := octal digits
          if n ≤ 255 then .ok (.char n, cs.drop (digits.length - 1)) else .error .badEscape
        else if c.isDigit || c.isAlpha then .error .badEscape
        else .ok (.char c.toNat, cs)

/-- Reads one member of a set, not yet knowing whether it begins a range. -/
def readMember : List Char → Except Error (Member × List Char)
  | [] => .error .unterminatedSet
  | '\\' :: cs => readSetEscape cs
  | c :: cs => .ok (.char c.toNat, cs)

/-- The range from one member to another; both have to be single code points in order. -/
def Member.to? : Member → Member → Option Member
  | .char lo, .char hi => if lo ≤ hi then some (.range lo hi) else none
  | _, _ => none

/-- Reads the members of a set to its closing bracket. A bracket that would leave the set empty is
a member, and so is a hyphen before the closing bracket. -/
def readMembers : Nat → List Member → List Char → Except Error (List Member × List Char)
  | 0, _, _ => .error .unterminatedSet
  | _ + 1, _, [] => .error .unterminatedSet
  | fuel + 1, found, c :: cs =>
    if c = ']' ∧ found ≠ [] then .ok (found.reverse, cs)
    else do
      let (first, rest) ← readMember (c :: cs)
      match rest with
      | '-' :: [] => .error .unterminatedSet
      | '-' :: ']' :: rest => .ok ((.char 45 :: first :: found).reverse, rest)
      | '-' :: rest =>
        let (last, rest) ← readMember rest
        match first.to? last with
        | some m => readMembers fuel (m :: found) rest
        | none => .error .badRange
      | rest => readMembers fuel (first :: found) rest

/-- Reads a set, its opening bracket read. -/
def readSet (cs : List Char) : Except Error (Token × List Char) := do
  match cs with
  | '^' :: cs =>
    let (members, rest) ← readMembers (cs.length + 1) [] cs
    .ok (.set true members, rest)
  | cs =>
    let (members, rest) ← readMembers (cs.length + 1) [] cs
    .ok (.set false members, rest)

/-- Reads an escape outside a set, its backslash read. Three octal digits, or a zero and up to two
more, are a code point; any other digits refer to a group. -/
def readEscape : List Char → Except Error (Token × List Char)
  | [] => .error .badEscape
  | c :: cs =>
    match control? c, category? c with
    | some n, _ => .ok (.char n, cs)
    | none, some m => .ok (.set false [m], cs)
    | none, none =>
      if c = 'A' then .ok (.textStart, cs)
      else if c = 'Z' then .ok (.textEnd, cs)
      else if c = 'b' then .ok (.boundary false, cs)
      else if c = 'B' then .ok (.boundary true, cs)
      else if c = 'x' ∨ c = 'u' ∨ c = 'U' then do
        let (n, rest) ← readCodePoint c cs
        .ok (.char n, rest)
      else if c = 'N' then do
        let (n, rest) ← readNamed cs
        .ok (.char n, rest)
      else if c = '0' then
        let digits := (cs.take 2).takeWhile isOctal
        .ok (.char (octal digits), cs.drop digits.length)
      else if c.isDigit then
        match cs with
        | d :: e :: rest =>
          if isOctal c && isOctal d && isOctal e then
            if octal [c, d, e] ≤ 255 then .ok (.char (octal [c, d, e]), rest)
            else .error .badEscape
          else if d.isDigit then .ok (.reference (decimal [c, d]), e :: rest)
          else .ok (.reference (decimal [c]), cs)
        | [d] =>
          if d.isDigit then .ok (.reference (decimal [c, d]), [])
          else .ok (.reference (decimal [c]), cs)
        | [] => .ok (.reference (decimal [c]), [])
      else if c.isAlpha then .error .badEscape
      else .ok (.char c.toNat, cs)

def boundLimit : Nat := 4294967295

def readMode : List Char → Mode × List Char
  | '?' :: cs => (.lazy, cs)
  | '+' :: cs => (.possessive, cs)
  | cs => (.greedy, cs)

/-- A repetition between two bounds, with its mode still to be read. -/
def readQuantifier (lo : Nat) (hi : Option Nat) (cs : List Char) : Token × List Char :=
  let (mode, rest) := readMode cs
  (.quantifier mode lo hi, rest)

/-- The bounds that are written between braces, if the braces hold bounds: a least number, a comma
and a greatest number, where one number alone is both and the comma alone leaves all open. -/
def bounds? (cs : List Char) : Option (List Char × List Char × List Char) :=
  let lo := cs.takeWhile Char.isDigit
  match cs.dropWhile Char.isDigit with
  | ',' :: rest =>
    match rest.dropWhile Char.isDigit with
    | '}' :: after => some (lo, rest.takeWhile Char.isDigit, after)
    | _ => none
  | '}' :: after => if lo.isEmpty then none else some (lo, lo, after)
  | _ => none

/-- A number has no more digits than these, zeros in front of it included. -/
def digitLimit : Nat := 4300

/-- A bound, or the fault of one that is too long or too large. -/
def readBound (digits : List Char) : Except Error Nat :=
  if digitLimit < digits.length then .error .longBound
  else if boundLimit ≤ decimal digits then .error .hugeBound
  else .ok (decimal digits)

/-- The bounds that digits write. Without digits the least is nothing and the greatest is open. -/
def readBounds (lo hi : List Char) : Except Error (Nat × Option Nat) := do
  let least ← if lo.isEmpty then pure 0 else readBound lo
  if hi.isEmpty then return (least, none)
  let greatest ← readBound hi
  if greatest < least then .error .reversedBounds else return (least, some greatest)

/-- Reads what an opening brace begins: bounds, or nothing but itself. A backslash that ends the
text is a fault met before one of the size of the bounds in front of it. -/
def readBrace (cs : List Char) : Token × List Char :=
  match bounds? cs with
  | none => (.char 123, cs)
  | some (lo, hi, rest) =>
    match readBounds lo hi with
    | .ok (least, greatest) => readQuantifier least greatest rest
    | .error e => (.bad (if rest = ['\\'] then .badEscape else e), rest)

/-- Reads option letters up to a character that is none. -/
def readFlagLetters (seen : Flags) : List Char → Flags × List Char
  | [] => (seen, [])
  | c :: cs =>
    match Flags.ofLetter? c with
    | some f => readFlagLetters (seen.union f) cs
    | none => (seen, c :: cs)

/-- Reads the options of a group to the colon or the parenthesis that ends them. The two readings
of classes exclude each other and are not turned off, nothing is turned on and off, and only a whole
expression can be a template. -/
def readFlags (cs : List Char) : Except Error (Token × List Char) :=
  let (on, rest) := readFlagLetters {} cs
  if on.ascii && on.unicode then .error .badFlags
  else match rest with
    | ')' :: rest => if on = {} then .error .badFlags else .ok (.flags on, rest)
    | ':' :: rest =>
      if on = {} ∨ on.template then .error .badFlags else .ok (.openPlain on {}, rest)
    | '-' :: rest =>
      let (off, rest) := readFlagLetters {} rest
      match rest with
      | ':' :: rest =>
        if off = {} ∨ off.ascii ∨ off.unicode ∨ off.template ∨ on.template ∨ on.inter off ≠ {} then
          .error .badFlags
        else .ok (.openPlain on off, rest)
      | _ => .error .badFlags
    | _ => .error .badFlags

/-- The text after a comment, if the comment ends. An escaped parenthesis does not end it. -/
def afterComment : List Char → Option (List Char)
  | [] => none
  | ')' :: cs => some cs
  | '\\' :: _ :: cs => afterComment cs
  | _ :: cs => afterComment cs

def readGroupName (closing : Char) (cs : List Char) : Except Error (String × List Char) :=
  let name := cs.takeWhile (· ≠ closing)
  match cs.dropWhile (· ≠ closing) with
  | [] => .error .badGroupName
  | _ :: rest =>
    if Text.isIdentifier name then .ok (String.ofList name, rest) else .error .badGroupName

def isPadding (c : Char) : Bool :=
  if Text.isAscii c then Text.isAsciiBlank c else Text.isBlank c

/-- The digits of a number; a low line may stand between two of them. -/
def digits? : List Char → Option (List Nat)
  | [] => none
  | [c] => if Text.isDecimal c then some [Text.digitValue c] else none
  | c :: '_' :: cs =>
    if Text.isDecimal c then (digits? cs).map (Text.digitValue c :: ·) else none
  | c :: cs => if Text.isDecimal c then (digits? cs).map (Text.digitValue c :: ·) else none

/-- The number of a group that a text names; blanks around it and a plus sign do not count. -/
def groupNumber? (cs : List Char) : Option Nat :=
  let cs := ((cs.dropWhile isPadding).reverse.dropWhile isPadding).reverse
  ((digits? (if cs.head? = some '+' then cs.tail else cs)).filter (·.length ≤ digitLimit)).map
    (numeral 10)

def groupLimit : Nat := 1073741823

/-- Reads the condition that begins a conditional group: the name or the number of a group. -/
def readCondition (cs : List Char) : Except Error (Token × List Char) :=
  let name := cs.takeWhile (· ≠ ')')
  match cs.dropWhile (· ≠ ')') with
  | [] => .error .badGroupName
  | _ :: rest =>
    if Text.isIdentifier name then .ok (.openIfNamed (String.ofList name), rest)
    else match groupNumber? name with
      | none => .error .badGroupName
      | some n =>
        if n = 0 ∨ groupLimit ≤ n then .error .badGroupNumber else .ok (.openIfGroup n, rest)

/-- Reads what an opening parenthesis begins, the parenthesis read. -/
def readOpening : List Char → Except Error (Token × List Char)
  | '?' :: 'P' :: '<' :: cs => do
    let (name, rest) ← readGroupName '>' cs
    .ok (.openCapture (some name), rest)
  | '?' :: 'P' :: '=' :: cs => do
    let (name, rest) ← readGroupName ')' cs
    .ok (.namedReference name, rest)
  | '?' :: ':' :: cs => .ok (.openPlain {} {}, cs)
  | '?' :: '=' :: cs => .ok (.openLook false false, cs)
  | '?' :: '!' :: cs => .ok (.openLook false true, cs)
  | '?' :: '<' :: '=' :: cs => .ok (.openLook true false, cs)
  | '?' :: '<' :: '!' :: cs => .ok (.openLook true true, cs)
  | '?' :: '>' :: cs => .ok (.openAtomic, cs)
  | '?' :: '(' :: cs => readCondition cs
  | '?' :: '#' :: cs =>
    match afterComment cs with
    | some rest => .ok (.comment, rest)
    | none => .error .unterminatedComment
  | '?' :: c :: cs =>
    if (Flags.ofLetter? c).isSome || c == '-' then readFlags (c :: cs) else .error .badExtension
  | '?' :: [] => .error .badExtension
  | cs => .ok (.openCapture none, cs)

/-- A reading as a token; a fault becomes the token that carries it, and nothing follows it. -/
def orBad : Except Error (Token × List Char) → Token × List Char
  | .ok r => r
  | .error e => (.bad e, [])

/-- The token that begins with `c`, and the text after it. -/
def readToken (c : Char) (cs : List Char) : Token × List Char :=
  match c with
  | '\\' => orBad (readEscape cs)
  | '[' => orBad (readSet cs)
  | '(' => orBad (readOpening cs)
  | '{' => readBrace cs
  | '*' => readQuantifier 0 none cs
  | '+' => readQuantifier 1 none cs
  | '?' => readQuantifier 0 (some 1) cs
  | '.' => (.dot, cs)
  | '^' => (.caret, cs)
  | '$' => (.dollar, cs)
  | '|' => (.bar, cs)
  | ')' => (.close, cs)
  | c => (.char c.toNat, cs)

/-- Which of the enclosing groups, innermost first, ignore blanks, after a token. -/
def verbosity (token : Token) (groups : List Bool) : List Bool :=
  let current := groups.headD false
  match token with
  | .openPlain on off => ((current || on.verbose) && !off.verbose) :: groups
  | .openCapture _ | .openLook _ _ | .openAtomic | .openIfGroup _ | .openIfNamed _ =>
    current :: groups
  | .close => if groups.length ≤ 1 then groups else groups.tail
  | .flags on => (current || on.verbose) :: groups.tail
  | _ => groups

/-- The text after a remark that runs to the end of its line. A backslash hides what follows it, and
has to hide something. -/
def afterRemark : List Char → Except Error (List Char)
  | [] => .ok []
  | '\n' :: cs => .ok cs
  | '\\' :: _ :: cs => afterRemark cs
  | ['\\'] => .error .badEscape
  | _ :: cs => afterRemark cs

/-- The tokens of a text; fuel bounds the number of steps. Where blanks are ignored, so is a remark
from a number sign to the end of its line. -/
def tokensFrom : Nat → List Bool → List Char → List Token
  | 0, _, _ => []
  | _ + 1, _, [] => []
  | fuel + 1, groups, c :: cs =>
    if groups.headD false && Text.isAsciiBlank c then tokensFrom fuel groups cs
    else if groups.headD false && c == '#' then
      match afterRemark cs with
      | .ok rest => tokensFrom fuel groups rest
      | .error e => [.bad e]
    else
      let (token, rest) := readToken c cs
      token :: tokensFrom fuel (verbosity token groups) rest

def tokens (verbose : Bool) (cs : List Char) : List Token :=
  tokensFrom cs.length [verbose] cs

example : tokens false "^a+?$".toList =
    [.caret, .char 97, .quantifier .lazy 1 none, .dollar] := by decide
example : tokens false "x\x7ba\x7d".toList = [.char 120, .char 123, .char 97, .char 125] := by
  decide

end ActionRouting.Regex
