import ActionRouting.Path.Pattern
import ActionRouting.Router.Target
import ActionRouting.Verb

/-! Route entries and the tables that hold them, one for each verb. -/
namespace ActionRouting

/-- How an entry came about: it was registered, it was derived for `HEAD` from `GET`, or it answers
for a verb that was not registered. -/
inductive EntryKind
  | explicit
  | implicit
  | fallback
  deriving DecidableEq, Repr

/-- A compiled path bound to the action of a target for one verb. -/
structure RouteEntry where
  pattern : Pattern
  verb : Verb
  target : Target
  action : String
  handler : Option Handler
  kind : EntryKind

/-- The routes of one verb by the sources of their patterns, in the order of registration. -/
abbrev Table := OrderedMap RouteEntry

/-- A route that passed every check and is ready to be entered. -/
structure Registration where
  verb : Verb
  pattern : Pattern
  target : Target
  action : String
  handler : Handler

namespace Registration

def notice (g : Registration) : String :=
  "Route " ++ g.verb.name ++ " " ++ g.pattern.source ++ " -> " ++ g.target.literal ++ "." ++
    g.action

/-- The entry that the registration makes for its verb, or for `HEAD` when that is derived. -/
def entry (g : Registration) (verb : Verb) (kind : EntryKind) : RouteEntry :=
  ⟨g.pattern, verb, g.target, g.action, some g.handler, kind⟩

end Registration

/-- The entry that answers for a verb that was not registered. -/
def RouteEntry.fallback (config : RouterConfig) (pattern : Pattern) (verb : Verb) : RouteEntry :=
  ⟨pattern, verb, .config config, methodNotAllowedAction, config.methodNotAllowed, .fallback⟩

/-- A table of one verb after a registration. The registered verb gets its entry; `HEAD` gets one
derived from `GET` unless it has its own; any other verb gets a fallback unless it has an entry. -/
def Table.add (config : RouterConfig) (g : Registration) (verb : Verb) (t : Table) : Table :=
  let source := g.pattern.source
  if verb = g.verb then OrderedMap.insert source (g.entry verb .explicit) t
  else
    match OrderedMap.get? source t with
    | some e =>
      if verb = .head ∧ g.verb = .get ∧ e.kind = .fallback then
        OrderedMap.insert source (g.entry .head .implicit) t
      else t
    | none =>
      if verb = .head ∧ g.verb = .get then OrderedMap.insert source (g.entry .head .implicit) t
      else OrderedMap.insert source (.fallback config g.pattern verb) t

end ActionRouting
