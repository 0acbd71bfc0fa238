import ActionRouting.Regex.Trial

/-! Matching with backtracking. `Node.results` lists every way to match at a position in order of
preference; `Node.run` finds the first of them that a continuation accepts. -/
namespace ActionRouting.Regex

namespace Node

/-- All ways to repeat a part, `least` more times at the least and `greatest` at the most. The last
repetition was begun at `last`, if it was one more than needed: none is begun there again, so that
empty repetitions end. -/
def loopResults (body : Cursor → List Cursor) (eager : Bool) :
    Nat → Nat → Option Nat → Option Nat → Cursor → List Cursor
  | 0, _, _, _, _ => []
  | fuel + 1, least + 1, greatest, last, s =>
    (body s).flatMap (loopResults body eager fuel least (greatest.map (· - 1)) last)
  | fuel + 1, 0, greatest, last, s =>
    let more :=
      if greatest = some 0 ∨ last = some s.pos then []
      else (body s).flatMap
        (loopResults body eager fuel 0 (greatest.map (· - 1)) (some s.pos))
    if eager then more ++ [s] else s :: more

/-- The ways to repeat a set, longest first. -/
def charLoop (set : CharSet) (lo : Nat) (hi : Option Nat) (s : Cursor) : List Cursor :=
  let reached := Cursor.charRun set s.after (hi.map (max lo)) s [s]
  reached.take (reached.length - lo)

/-- The one way of a possessive repetition. -/
def possess? (inLoop : Bool) (lo : Nat) (hi : Option Nat) (a : Node) (s : Cursor) : Option Cursor :=
  match a.chars? with
  | some set => (charLoop set lo hi s).head?
  | none => (Course.possess (a.course inLoop .other) lo hi s).toOption

/-- Every way to match at a position, the preferred ones first. -/
def results : Node → Cursor → List Cursor
  | .empty, s => [s]
  | .chars set, s =>
    match s.next? with
    | some (c, s') => if set.contains c then [s'] else []
    | none => []
  | .seq a b, s => (a.results s).flatMap b.results
  | .alt a b, s => a.results s ++ b.results s
  | .group index a, s => (a.results (s.enter index)).map (·.leave index)
  | .loop eager lo hi a, s => loopResults a.results eager (Course.fuel lo s) lo hi none s
  | .possessive inLoop lo hi a, s => (possess? inLoop lo hi a s).toList
  | .anchor condition, s => if condition.holds s then [s] else []
  | .again index casing, s =>
    match s.captured? index with
    | some text => (s.takeText casing text).toList
    | none => []
  | .look back negated a, s =>
    let found := match back with
      | none => (a.results s).head?
      | some n => (s.back? n).bind fun s' => (a.results s').head?
    match found with
    | some s' => if negated then [] else [{ s with groups := s'.groups }]
    | none => if negated then [s] else []
  | .atomic a, s => (a.results s).take 1
  | .ifGroup index yes no, s => if s.took index then yes.results s else no.results s

/-- The first way to repeat a part that a continuation accepts. -/
def loopRun (body : Cursor → (Cursor → Option Cursor) → Option Cursor) (eager : Bool)
    (k : Cursor → Option Cursor) : Nat → Nat → Option Nat → Option Nat → Cursor → Option Cursor
  | 0, _, _, _, _ => none
  | fuel + 1, least + 1, greatest, last, s =>
    body s (loopRun body eager k fuel least (greatest.map (· - 1)) last)
  | fuel + 1, 0, greatest, last, s =>
    let more (_ : Unit) :=
      if greatest = some 0 ∨ last = some s.pos then none
      else body s (loopRun body eager k fuel 0 (greatest.map (· - 1)) (some s.pos))
    if eager then more () <|> k s else k s <|> more ()

/-- The first way to match at a position that a continuation accepts. -/
def run : Node → Cursor → (Cursor → Option Cursor) → Option Cursor
  | .empty, s, k => k s
  | .chars set, s, k =>
    match s.next? with
    | some (c, s') => if set.contains c then k s' else none
    | none => none
  | .seq a b, s, k => a.run s fun s' => b.run s' k
  | .alt a b, s, k => a.run s k <|> b.run s k
  | .group index a, s, k => a.run (s.enter index) fun s' => k (s'.leave index)
  | .loop true lo hi a, s, k =>
    match a.chars? with
    | some set => (charLoop set lo hi s).findSome? k
    | none => loopRun a.run true k (Course.fuel lo s) lo hi none s
  | .loop false lo hi a, s, k =>
    match a.chars? with
    | some set => (charLoop set lo hi s).reverse.findSome? k
    | none => loopRun a.run false k (Course.fuel lo s) lo hi none s
  | .possessive inLoop lo hi a, s, k => (possess? inLoop lo hi a s).bind k
  | .anchor condition, s, k => if condition.holds s then k s else none
  | .again index casing, s, k =>
    match s.captured? index with
    | some text => (s.takeText casing text).bind k
    | none => none
  | .look back negated a, s, k =>
    let found := match back with
      | none => a.run s some
      | some n => (s.back? n).bind fun s' => a.run s' some
    match found with
    | some s' => if negated then none else k { s with groups := s'.groups }
    | none => if negated then k s else none
  | .atomic a, s, k => (a.run s some).bind k
  | .ifGroup index yes no, s, k => if s.took index then yes.run s k else no.run s k

end Node

end ActionRouting.Regex

namespace ActionRouting

/-- Where a regular expression matched, and what its capture groups took. -/
structure Regex.Match where
  span : Regex.Span
  groups : List (Option Regex.Span)
  deriving DecidableEq, Repr

namespace Regex

/-- A search looks at a place: the next character is of the set that a match has to begin with, and
enough characters follow in a text that is long enough. -/
def admits (r : Regex) (s : Cursor) : Bool :=
  (r.first.all fun set => s.after.head?.any set.contains) &&
    (r.room = 0 || r.room ≤ s.after.length) &&
    (r.shortest = 0 || r.shortest ≤ s.before.length + s.after.length)

/-- The end of the match at a position, found by trial. -/
def trial (r : Regex) (s : Cursor) : Option Cursor :=
  (Course.alone (r.root.course false .other) s).toOption

def endFrom (r : Regex) (s : Cursor) : Option Cursor :=
  if r.byTrial then r.trial s else r.root.run s some

def matchFrom (r : Regex) (s : Cursor) : Option Match :=
  if r.admits s then (r.endFrom s).map fun e => ⟨⟨s.pos, e.pos⟩, e.groups.map Mark.span?⟩
  else none

/-- The match at the first position that has one, from one on. -/
def searchFrom (r : Regex) (groups : List Mark) : Nat → List Char → List Char → Option Match
  | pos, before, [] => r.matchFrom ⟨pos, before, [], groups⟩
  | pos, before, c :: rest =>
    match r.matchFrom ⟨pos, before, c :: rest, groups⟩ with
    | some m => some m
    | none => r.searchFrom groups (pos + 1) (c :: before) rest

/-- The leftmost match in a text. -/
def search (r : Regex) (text : List Char) : Option Match :=
  r.searchFrom (List.replicate r.groupCount {}) 0 [] text

/-- A capture group was left before it was entered. Only possessive repetition can bring that about,
and no match may show it. -/
def Match.isCrossed (m : Match) : Bool :=
  m.groups.any (·.any fun span => span.stop < span.start)

def Span.of (span : Span) (text : List Char) : List Char :=
  (text.drop span.start).take (span.stop - span.start)

def Match.texts (m : Match) (text : List Char) : List (Option (List Char)) :=
  m.groups.map (·.map (·.of text))

example : ((compile {} "(a+?)(b|ab)").toOption.bind (·.search "xaab".toList)).map
    (fun m => (m.span, m.texts "xaab".toList)) =
      some (⟨1, 4⟩, [some ['a'], some ['a', 'b']]) := by decide +kernel

end Regex

end ActionRouting
