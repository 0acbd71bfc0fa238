import ActionRouting.Router.Basic
import ActionRouting.Text.Percent

/-! Finding the route of a request. Routes are tried in the order of registration. -/
namespace ActionRouting

/-- A route that a request takes: its entry, what each capture group took, and the parameters. -/
structure Matched where
  entry : RouteEntry
  args : List (Option String)
  params : OrderedMap String

inductive Disposition
  | matched (m : Matched)
  | notAllowed (allowed : List Verb)
  | unmatched

def allowHeader (allowed : List Verb) : String := ", ".intercalate (allowed.map Verb.name)

/-- The part of a path before its query or fragment. -/
def stripQuery (path : List Char) : List Char := path.takeWhile fun c => c != '?' && c != '#'

/-- What the capture groups of a match took, percent-decoded. -/
def decodeGroups (m : Regex.Match) (path : List Char) : List (Option String) :=
  (m.texts path).map (·.map fun text => String.ofList (Text.Percent.decode text))

/-- The parameters: each named slot whose group took part. Of two slots with one name the later
counts. -/
def paramsOf (slots : List Slot) (args : List (Option String)) : OrderedMap String :=
  .ofPairs ((slots.zip args).filterMap fun p => do return (← p.1.name, ← p.2))

namespace Router

/-- The verbs registered for a source. A `HEAD` entry derived from `GET` is not among them. -/
def allowedFor (r : Router) (source : String) : List Verb :=
  Verb.all.filter fun v => (r.entry? v source).any (·.kind = .explicit)

/-- The first entry of a table whose pattern matches a path, with the match. -/
def firstMatch (path : List Char) : Table → Option (RouteEntry × Regex.Match)
  | [] => none
  | (_, e) :: rest =>
    match e.pattern.matcher.search path with
    | some m => some (e, m)
    | none => firstMatch path rest

/-- The entry that a path leads to among those for a verb, with the match. -/
def found (r : Router) (v : Verb) (path : String) : Option (RouteEntry × Regex.Match) :=
  firstMatch (stripQuery path.toList) (r.table v)

/-- The outcome for the entry that a path leads to; the path is without its query. -/
def outcome (r : Router) (path : List Char) : Option (RouteEntry × Regex.Match) → Disposition
  | none => .unmatched
  | some (e, m) =>
    if e.kind = .fallback then .notAllowed (r.allowedFor e.pattern.source)
    else
      let args := decodeGroups m path
      .matched ⟨e, args, paramsOf e.pattern.slots args⟩

/-- The outcome for a request. Case does not matter in its verb, and no route is bound to a verb
that is none. A match with a crossed capture group is no answer. -/
def dispatch (r : Router) (verb path : Value) : Result Disposition :=
  match path with
  | .text path =>
    match verb with
    | .text verb =>
      match Verb.ofName? (Text.upper verb) with
      | some v =>
        let found := r.found v path
        if found.any (·.2.isCrossed) then .error .crossedGroup
        else .ok (r.outcome (stripQuery path.toList) found)
      | none => .ok .unmatched
    | .bytes _ => .ok .unmatched
    | _ => .error .noSuchMethod
  | _ => .error .wrongType

/-- The line that tells of a request for another verb than those registered. -/
def notAllowedNotice (verb path : Value) (allowed : List Verb) : String :=
  verb.display ++ " " ++ String.ofList (stripQuery path.display.toList) ++ " not allowed (" ++
    allowHeader allowed ++ ")"

end Router

end ActionRouting
