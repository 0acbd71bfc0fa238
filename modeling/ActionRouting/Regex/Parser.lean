import ActionRouting.Regex.Lexer

/-! Building a regular expression from its tokens, one token at a time. The parser holds the group
it is in and the groups around it, so a token list is read by a fold. -/
namespace ActionRouting.Regex

inductive Opening
  | root
  | plain
  | scoped
  | capture (index : Nat)
  | look (behind negated : Bool) (groupsBefore : Nat)
  | atomic
  | ifGroup (index : Nat)
  deriving DecidableEq, Repr

/-- How much deeper a group lies than what is around it. -/
def Opening.depth : Opening → Nat
  | root => 0
  | ifGroup _ => 1
  | _ => 2

/-- A part of a branch: one expression, or a plain group. The parts of a plain group take its place,
unless it is repeated. -/
inductive Part
  | single (node : Node)
  | plain (nodes : List Node)
  deriving DecidableEq, Repr

namespace Part

def nodes : Part → List Node
  | single node => [node]
  | plain nodes => nodes

def node : Part → Node
  | single node => node
  | plain nodes => .ofParts nodes

end Part

/-- A group that is being read: its options, its finished branches and the parts of the current one,
both latest first. -/
structure Frame where
  opening : Opening
  flags : Flags
  branches : List (List Node) := []
  parts : List Part := []
  deriving DecidableEq, Repr

namespace Frame

def branch (f : Frame) : List Node := f.parts.reverse.flatMap Part.nodes

def nodes (f : Frame) : List Node := Node.ofBranches (f.branch :: f.branches).reverse

def node (f : Frame) : Node := .ofParts f.nodes

/-- The two branches of a conditional group; the second may be missing. -/
def condition (f : Frame) (index : Nat) : Node :=
  match f.branches with
  | [] => .ifGroup index (.ofParts f.branch) .empty
  | yes :: _ => .ifGroup index (.ofParts yes) (.ofParts f.branch)

end Frame

/-- The state of reading: the current group, those around it, the width of each capture group that
is complete, the names of capture groups, the numbers by which conditions refer to groups, and a
fault that counts only if the text has no other. -/
structure Parser where
  frame : Frame
  outer : List Frame := []
  groups : List (Option Width) := []
  names : List (String × Nat) := []
  conditions : List Nat := []
  late : Option Error := none
  deriving DecidableEq, Repr

namespace Parser

def start (flags : Flags) : Parser := { frame := { opening := .root, flags } }

/-- Notes a fault that counts only if the text has no other. That a lookbehind is too long is the
last to count. -/
def blame (p : Parser) (e : Error) : Parser :=
  match p.late with
  | none | some .hugeLookbehind => { p with late := some e }
  | some _ => p

def push (p : Parser) (n : Node) : Parser :=
  { p with frame := { p.frame with parts := .single n :: p.frame.parts } }

def pushPlain (p : Parser) (nodes : List Node) : Parser :=
  { p with frame := { p.frame with parts := .plain nodes :: p.frame.parts } }

/-- Adds a set of characters, read under the current options. -/
def pushChars (p : Parser) (negated : Bool) (members : List Member) : Parser :=
  p.push (.chars ⟨negated, members.eraseDups, p.frame.flags.casing, p.frame.flags.ascii⟩)

def depth (p : Parser) : Nat := (p.frame :: p.outer).foldr (fun f n => f.opening.depth + n) 0

def depthLimit : Nat := 984

def enter (p : Parser) (opening : Opening) (flags : Flags) : Except Error Parser :=
  if depthLimit < p.depth + opening.depth then .error .deepGroup
  else .ok { p with frame := { opening, flags }, outer := p.frame :: p.outer }

/-- The number of capture groups that were open before the outermost lookbehind around here. -/
def lookbehindLimit? (p : Parser) : Option Nat :=
  (p.frame :: p.outer).reverse.findSome? fun f =>
    match f.opening with
    | .look true _ n => some n
    | _ => none

/-- Adds a reference to a capture group, which has to be complete and outside any lookbehind
here. -/
def refer (p : Parser) (index : Nat) : Except Error Parser :=
  match p.groups[index - 1]? with
  | none => .error (.unknownGroup index)
  | some none => .error (.openGroup index)
  | some (some _) =>
    if p.lookbehindLimit?.any (· < index) then .error (.groupOfSameLookbehind index)
    else .ok (p.push (.again index p.frame.flags.casing))

/-- Repeats the latest part. A condition is not repeated, and neither is a repetition. -/
def repeatLast (p : Parser) (mode : Mode) (lo : Nat) (hi : Option Nat) : Except Error Parser :=
  let p := if p.frame.flags.template then p.blame .repeatedInTemplate else p
  match p.frame.parts with
  | [] | .single (.anchor _) :: _ => .error .nothingToRepeat
  | .single (.loop _ _ _ _) :: _ | .single (.possessive _ _ _ _) :: _ => .error .multipleRepeat
  | part :: rest =>
    .ok { p with frame :=
      { p.frame with parts := .single (.ofRepetition mode lo hi part.node) :: rest } }

/-- Enters a group that depends on a capture group. Inside a lookbehind that group has to be
complete and outside it. -/
def enterIf (p : Parser) (index : Nat) : Except Error Parser :=
  match p.lookbehindLimit? with
  | none => p.enter (.ifGroup index) p.frame.flags
  | some limit =>
    if (p.groups[index - 1]?).join.isNone then .error (.openGroup index)
    else if limit < index then .error (.groupOfSameLookbehind index)
    else p.enter (.ifGroup index) p.frame.flags

/-- A lookbehind goes back fewer characters than these. -/
def lookbehindWidth : Nat := 2147483648

/-- The state once a lookbehind of a width was read. -/
def checkLookbehind (p : Parser) (width : Width) : Parser :=
  match width.fixed? with
  | none => p.blame .variableLookbehind
  | some n => if lookbehindWidth ≤ n then p.blame .hugeLookbehind else p

/-- Leaves the current group. Options that exclude each other are a fault that comes before that of
a parenthesis which closes nothing. -/
def leave (p : Parser) : Except Error Parser :=
  match p.outer with
  | [] => .error (if p.frame.flags.conflict then .conflictingFlags else .strayClose)
  | frame :: outer =>
    let body := p.frame.node
    let width := body.width p.groups
    let p' := { p with frame, outer }
    match p.frame.opening with
    | .root => .error .strayClose
    | .plain => .ok (p'.pushPlain p.frame.nodes)
    | .scoped => .ok (p'.push body)
    | .capture index =>
      .ok ({ p' with groups := p.groups.set (index - 1) (some width) }.push (.group index body))
    | .look false negated _ => .ok (p'.push (.look none negated body))
    | .look true negated _ =>
      .ok ((p'.checkLookbehind width).push (.look (some width.least) negated body))
    | .atomic => .ok (p'.push (.atomic body))
    | .ifGroup index => .ok (p'.push (p.frame.condition index))

def openCapture (p : Parser) (name : Option String) : Except Error Parser :=
  let index := p.groups.length + 1
  match name with
  | none =>
    { p with groups := p.groups ++ [none] }.enter (.capture index) p.frame.flags
  | some name =>
    if (p.names.lookup name).isSome then .error (.repeatedGroupName name)
    else { p with groups := p.groups ++ [none], names := p.names ++ [(name, index)] }.enter
      (.capture index) p.frame.flags

/-- Begins the next branch of the current group. A conditional group has two at the most. -/
def nextBranch (p : Parser) : Except Error Parser :=
  match p.frame.opening, p.frame.branches with
  | .ifGroup _, _ :: _ => .error .thirdBranch
  | _, branches =>
    .ok { p with frame := { p.frame with branches := p.frame.branch :: branches, parts := [] } }

def step (p : Parser) (token : Token) : Except Error Parser :=
  let flags := p.frame.flags
  match token with
  | .char n => .ok (p.pushChars false [.char n])
  | .set negated members => .ok (p.pushChars negated members)
  | .dot => .ok (p.pushChars true (if flags.dotAll then [] else [.range 10 10]))
  | .caret => .ok (p.push (.anchor (if flags.multiLine then .lineStart else .textStart)))
  | .dollar => .ok (p.push (.anchor (if flags.multiLine then .lineEnd else .finalLineEnd)))
  | .textStart => .ok (p.push (.anchor .textStart))
  | .textEnd => .ok (p.push (.anchor .textEnd))
  | .boundary negated => .ok (p.push (.anchor (.boundary flags.ascii negated)))
  | .quantifier mode lo hi => p.repeatLast mode lo hi
  | .bar => p.nextBranch
  | .openCapture name => p.openCapture name
  | .openPlain on off =>
    p.enter (if on = {} ∧ off = {} then .plain else .scoped) (flags.inside on off)
  | .openLook behind negated => p.enter (.look behind negated p.groups.length) flags
  | .openAtomic => p.enter .atomic flags
  | .openIfGroup index => { p with conditions := index :: p.conditions }.enterIf index
  | .openIfNamed name =>
    match p.names.lookup name with
    | some index => p.enterIf index
    | none => .error (.unknownGroupName name)
  | .close => p.leave
  | .flags on =>
    if p.outer = [] ∧ p.frame.branches = [] ∧ p.frame.parts = [] then
      .ok { p with frame := { p.frame with flags := flags.union on } }
    else .error .lateFlags
  | .reference index => p.refer index
  | .namedReference name =>
    match p.names.lookup name with
    | some index => p.refer index
    | none => .error (.unknownGroupName name)
  | .comment => .ok p
  | .bad e => .error e

def run (p : Parser) (ts : List Token) : Except Error Parser := ts.foldlM step p

theorem run_append (p : Parser) (ts us : List Token) :
    p.run (ts ++ us) = p.run ts >>= fun q => q.run us := by
  simp [run]

end Parser

end ActionRouting.Regex

namespace ActionRouting

/-- A regular expression ready for matching. A search looks only at places where a character of
`first` follows, if that is given, and `room` characters or more, in a text of `shortest` or more.
An expression that asks within a group about that group is matched by trial as a whole. -/
structure Regex where
  source : String
  flags : Regex.Flags
  root : Regex.Node
  groupCount : Nat
  names : List (String × Nat)
  first : Option Regex.CharSet := none
  room : Nat := 0
  shortest : Nat := 0
  byTrial : Bool := false
  deriving DecidableEq, Repr

namespace Regex

/-- The set in which a search looks for the first character. Classes are read there as in the whole
expression, even if the set itself stands where they are read otherwise. -/
def firstOf (flags : Flags) (root : Node) : Option CharSet := do
  let set ← root.firstSet?
  if set.ascii = flags.ascii then none else set.withAscii? flags.ascii

/-- How many characters a search asks to follow, and how many of a text. What is asked never hides a
match that is as wide as it should be; possessive repetition alone makes others. -/
def roomOf (root : Node) (least : Nat) : Nat × Nat :=
  if root.repeatsPossessively then (if root.beginsPlainly then 0 else least - 1, least) else (0, 0)

def ofParser (source : String) (p : Parser) : Except Error Regex :=
  let flags := p.frame.flags
  if p.outer ≠ [] then .error .unclosedGroup
  else if flags.conflict then .error .conflictingFlags
  else match p.conditions.find? (p.groups.length < ·) with
    | some index => .error (.unknownGroup index)
    | none =>
      match p.late with
      | some e => .error e
      | none =>
        let root := p.frame.node
        let (room, shortest) := roomOf root (min (root.width p.groups).least (Width.limit - 1))
        .ok ⟨source, flags, root, p.groups.length, p.names, firstOf flags root, room, shortest,
          root.asksOwnGroup⟩

def compile (flags : Flags) (source : String) : Except Error Regex := do
  ofParser source (← (Parser.start flags).run (tokens flags.verbose source.toList))

def nameOf? (r : Regex) (index : Nat) : Option String :=
  (r.names.find? (·.2 == index)).map (·.1)

example : (compile {} "(a)(?P<n>b)?").toOption.map (fun r => (r.groupCount, r.names)) =
    some (2, [("n", 2)]) := by decide +kernel
example : (match compile {} "a**" with | .error e => some e | .ok _ => none) =
    some .multipleRepeat := by decide +kernel

end Regex

end ActionRouting
