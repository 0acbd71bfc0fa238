import ActionRouting.Regex.CharSet

/-! The structure of a regular expression. Options are resolved: each part says how it compares. -/
namespace ActionRouting.Regex

/-- How a repetition chooses its count: as many as possible first, as few as possible first, or as
many as possible without going back. -/
inductive Mode
  | greedy
  | lazy
  | possessive
  deriving DecidableEq, Repr

/-- A condition on a position of the text. -/
inductive Anchor
  | textStart
  | lineStart
  | textEnd
  | finalLineEnd
  | lineEnd
  | boundary (ascii negated : Bool)
  deriving DecidableEq, Repr

/-- A regular expression. `loop` prefers many repetitions if it is eager, else few; `possessive`
takes as many as it can and never fewer, and knows whether it stands in a loop. `look (some n)`
tries its part `n` characters back, `look none` here; `ifGroup` goes on with one part or the other,
as a capture group took part or not. -/
inductive Node
  | empty
  | chars (s : CharSet)
  | seq (first second : Node)
  | alt (first second : Node)
  | group (index : Nat) (body : Node)
  | loop (eager : Bool) (min : Nat) (max : Option Nat) (body : Node)
  | possessive (inLoop : Bool) (min : Nat) (max : Option Nat) (body : Node)
  | anchor (condition : Anchor)
  | again (index : Nat) (casing : Casing)
  | look (back : Option Nat) (negated : Bool) (body : Node)
  | atomic (body : Node)
  | ifGroup (index : Nat) (yes no : Node)
  deriving DecidableEq, Repr

/-- The least and the greatest number of characters that an expression can take. -/
structure Width where
  least : Nat
  greatest : Option Nat
  deriving DecidableEq, Repr

namespace Width

def exactly (n : Nat) : Width := ⟨n, some n⟩

/-- One after the other. -/
def add (a b : Width) : Width :=
  ⟨a.least + b.least, do return (← a.greatest) + (← b.greatest)⟩

/-- One or the other. -/
def join (a b : Width) : Width :=
  ⟨min a.least b.least, do return max (← a.greatest) (← b.greatest)⟩

/-- A repetition; nothing repeated without bound is nothing, and so is anything repeated no
times. -/
def times (a : Width) (lo : Nat) (hi : Option Nat) : Width :=
  ⟨a.least * lo, if a.greatest = some 0 ∨ hi = some 0 then some 0
    else do return (← a.greatest) * (← hi)⟩

/-- A greatest width is counted up to this number, and a least width stays below it. -/
def limit : Nat := 4294967295

/-- The width, if it is fixed as far as widths are counted. -/
def fixed? (a : Width) : Option Nat :=
  let least := min a.least (limit - 1)
  if min (a.greatest.getD limit) limit = least then some least else none

end Width

namespace Node

def ofParts (parts : List Node) : Node := parts.foldr .seq .empty

/-- The first of several expressions that matches. -/
def ofAlternatives : List Node → Node
  | [] => .empty
  | [branch] => branch
  | branch :: rest => .alt branch (ofAlternatives rest)

/-- Two expressions of this kind are one if they are written alike: a character, a condition on the
position, or a repeated group. -/
def isSimple : Node → Bool
  | .chars _ => true
  | .anchor _ => true
  | .again _ _ => true
  | _ => false

/-- The set of the only part of a branch, unless the set is negated. -/
def setOf? : List Node → Option CharSet
  | [.chars s] => if s.negated then none else some s
  | _ => none

/-- A choice among branches, the first one preferred. Branches of one character each make one
set. -/
def choice (branches : List (List Node)) : Node :=
  match branches.mapM setOf? with
  | some (s :: sets) =>
    .chars { s with members := ((s :: sets).flatMap CharSet.members).eraseDups }
  | _ => .ofAlternatives (branches.map ofParts)

/-- The parts of a choice among a first branch and others: simple parts that all of them begin with
stand before it. -/
def partsOfChoice : List Node → List (List Node) → List Node
  | n :: first, rest =>
    if n.isSimple && rest.all (·.head? == some n) then
      n :: partsOfChoice first (rest.map List.tail)
    else [choice ((n :: first) :: rest)]
  | [], rest => [choice ([] :: rest)]

/-- The parts that the branches of a group come to. -/
def ofBranches : List (List Node) → List Node
  | [] => []
  | [branch] => branch
  | branch :: rest => partsOfChoice branch rest

/-- The width of an expression, given the widths of the groups it may refer to. -/
def width (groups : List (Option Width)) : Node → Width
  | .empty => .exactly 0
  | .chars _ => .exactly 1
  | .seq a b => (a.width groups).add (b.width groups)
  | .alt a b => (a.width groups).join (b.width groups)
  | .group _ a => a.width groups
  | .loop _ lo hi a | .possessive _ lo hi a => (a.width groups).times lo hi
  | .anchor _ => .exactly 0
  | .again index _ => ((groups[index - 1]?).join).getD (.exactly 0)
  | .look _ _ _ => .exactly 0
  | .atomic a => a.width groups
  | .ifGroup _ yes no => (yes.width groups).join (no.width groups)

def inLoop : Node → Node
  | .seq a b => .seq a.inLoop b.inLoop
  | .alt a b => .alt a.inLoop b.inLoop
  | .group index a => .group index a.inLoop
  | .possessive _ lo hi a => .possessive true lo hi a.inLoop
  | .look back negated a => .look back negated a.inLoop
  | .atomic a => .atomic a.inLoop
  | .ifGroup index yes no => .ifGroup index yes.inLoop no.inLoop
  | n => n

def ofRepetition (mode : Mode) (lo : Nat) (hi : Option Nat) (body : Node) : Node :=
  match mode with
  | .greedy => .loop true lo hi body.inLoop
  | .lazy => .loop false lo hi body.inLoop
  | .possessive => .possessive false lo hi body

/-- The set that an expression consists of, if it takes exactly one character from a set. -/
def chars? : Node → Option CharSet
  | .chars s => some s
  | .seq a .empty => a.chars?
  | _ => none

/-- The set that the first character of every match is in, where an expression begins with a set. -/
def firstSet? : Node → Option CharSet
  | .chars s => some s
  | .seq a _ => a.firstSet?
  | .group _ a => a.firstSet?
  | _ => none

def branchesBeginWithChar : Node → Bool
  | .seq (.chars s) _ => s.literal?.isSome
  | .alt a b => a.branchesBeginWithChar && b.branchesBeginWithChar
  | _ => false

/-- The expression shows at once that a match begins with one of certain characters. -/
def beginsPlainly : Node → Bool
  | .chars s => s.literal?.isSome || s.isListed
  | .seq a _ => a.beginsPlainly
  | .group _ a => a.beginsPlainly
  | .alt a b => (Node.alt a b).branchesBeginWithChar
  | _ => false

/-- A part that is more than one set is repeated possessively. -/
def repeatsPossessively : Node → Bool
  | .seq a b | .alt a b | .ifGroup _ a b => a.repeatsPossessively || b.repeatsPossessively
  | .group _ a | .loop _ _ _ a | .look _ _ a | .atomic a => a.repeatsPossessively
  | .possessive _ _ _ a => a.chars?.isNone
  | _ => false

/-- A part depends on whether a capture group took part. -/
def asksAbout (index : Nat) : Node → Bool
  | .seq a b | .alt a b => a.asksAbout index || b.asksAbout index
  | .group _ a | .loop _ _ _ a | .possessive _ _ _ a | .look _ _ a | .atomic a => a.asksAbout index
  | .ifGroup i yes no => i == index || yes.asksAbout index || no.asksAbout index
  | _ => false

/-- A part of a capture group depends on whether that group took part. -/
def asksOwnGroup : Node → Bool
  | .seq a b | .alt a b | .ifGroup _ a b => a.asksOwnGroup || b.asksOwnGroup
  | .group index a => a.asksAbout index || a.asksOwnGroup
  | .loop _ _ _ a | .possessive _ _ _ a | .look _ _ a | .atomic a => a.asksOwnGroup
  | _ => false

example : ofBranches [[.chars ⟨false, [.char 97], .exact, false⟩, .anchor .textEnd],
    [.chars ⟨false, [.char 97], .exact, false⟩]] =
      [.chars ⟨false, [.char 97], .exact, false⟩,
        .alt (.seq (.anchor .textEnd) .empty) .empty] := by
  decide

end Node

end ActionRouting.Regex
