import ActionRouting.Path.Fragment
import ActionRouting.Path.Spec

/-! Compiling a path specification into a regular expression and a list of what its capture groups
stand for. -/
namespace ActionRouting

/-- What a capture group stands for. -/
structure Slot where
  name : Option String := none
  optional : Bool := false
  deriving DecidableEq, Repr

/-- A compiled path. Its source is its identity: paths with one source are one path for all
verbs. -/
structure Pattern where
  spec : PathSpec
  source : String
  matcher : Regex
  slots : List Slot

namespace Pattern

def names (p : Pattern) : List String := p.slots.filterMap (·.name)

/-- What a parameter captures when it does not say: the rest of its segment. -/
def segmentCapture : List Char := "([^/]+?)".toList

/-- What a parameter after a dot captures when it does not say: a part of a segment without dots. -/
def formatCapture : List Char := "([^/.]+?)".toList

/-- What a star after a parameter adds: the rest of the path. -/
def trailingCapture : List Char := "(/.*)?".toList

/-- A regular expression and what its capture groups stand for. -/
abbrev Piece := List Char × List Slot

/-- The capture of a parameter, and the number of groups it makes: one, unless it has groups of its
own. -/
def capture (p : Path.Param) : Result (List Char × Nat) :=
  match p.capture with
  | none => .ok (if p.dot then formatCapture else segmentCapture, 1)
  | some own =>
    match Regex.compile {} (String.ofList own) with
    | .error e => .error (.badRegex e)
    | .ok r =>
      if r.groupCount = 0 then .ok ('(' :: own ++ [')'], 1) else .ok (own, r.groupCount)

/-- A parameter. The slash before an optional one is optional with it. -/
def ofParam (p : Path.Param) : Result Piece := do
  let slash := if p.slash then ['/'] else []
  let dot := if p.dot then ['\\', '.'] else []
  let (expr, groups) ← capture p
  let slots := ⟨some (String.ofList p.name), p.optional⟩ ::
    List.replicate (groups - 1) ⟨none, p.optional⟩ ++ (if p.star then [⟨none, true⟩] else [])
  .ok ((if p.optional then [] else slash) ++ "(?:".toList ++ (if p.optional then slash else []) ++
    dot ++ expr ++ [')'] ++ (if p.optional then ['?'] else []) ++
    (if p.star then trailingCapture else []), slots)

/-- A fragment. Escapes and the openings of groups stay as they are. -/
def ofFragment : Path.Fragment → Result Piece
  | .param p => ofParam p
  | .escape c => .ok (['\\', c], [])
  | .dot => .ok (['\\', '.'], [])
  | .wildcard => .ok ("(.*)".toList, [{}])
  | .group name => .ok ((Path.Fragment.group name).write, [⟨name.map String.ofList, false⟩])

def ofPieces : List (Text.Piece Path.Fragment) → Result Piece
  | [] => .ok ([], [])
  | .plain c :: rest => do
    let (expr, slots) ← ofPieces rest
    .ok (c :: expr, slots)
  | .token f :: rest => do
    let (first, firstSlots) ← ofFragment f
    let (expr, slots) ← ofPieces rest
    .ok (first ++ expr, firstSlots ++ slots)

/-- Compiles the text of a path. It has to match from the start to the end, and may leave out one
slash at the end unless slashes are strict. -/
def ofText (spec : PathSpec) (caseSensitive strict : Bool) (text : List Char) : Result Pattern := do
  let (expr, slots) ← ofPieces (Path.Fragment.scanner.pieces text)
  let source := String.ofList ('^' :: expr ++ (if strict then [] else ['/', '?']) ++ ['$'])
  match Regex.compile { ignoreCase := !caseSensitive } source with
  | .ok matcher => .ok ⟨spec, source, matcher, slots⟩
  | .error e => .error (.badRegex e)

def joinAlternatives (paths : List String) : List Char :=
  '(' :: ['|'].intercalate (paths.map String.toList) ++ [')']

/-- Compiles a path specification. A regular expression is taken as it is. -/
def compile (caseSensitive strict : Bool) (spec : PathSpec) : Result Pattern :=
  match spec with
  | .text s => ofText spec caseSensitive strict s.toList
  | .alternatives paths => ofText spec caseSensitive strict (joinAlternatives paths)
  | .regex r =>
    .ok ⟨spec, r.source, r, (List.range r.groupCount).map fun i => ⟨r.nameOf? (i + 1), false⟩⟩
  | .other _ => .error .wrongType

end Pattern

end ActionRouting
