import ActionRouting.Router.Basic
import ActionRouting.Regex.Template

/-! The URL of a route, from its target, its action and arguments. -/
namespace ActionRouting

/-- The arguments of a URL: none, values by name, values in order, both, or a value that is no
arguments. -/
inductive RouteArguments
  | absent
  | named (values : Value)
  | positional (values : Value)
  | mixed (named positional : Value)
  | other (v : Value)

namespace RouteArguments

/-- Sorts loose values: mappings are merged into the named ones, lists and tuples extend the
positional ones, and anything else is added to those. -/
def sortLoose (values : List Value) : OrderedMap Value × List Value :=
  values.foldl (fun done v =>
    match v with
    | .mapping fields => (OrderedMap.insertAll fields done.1, done.2)
    | .list items => (done.1, done.2 ++ items)
    | .tuple items => (done.1, done.2 ++ items)
    | v => (done.1, done.2 ++ [v])) ([], [])

/-- The arguments that loose values give. -/
def flatten (values : List Value) : RouteArguments :=
  let sorted := sortLoose values
  .mixed (.mapping sorted.1) (.tuple sorted.2)

def unpack : RouteArguments → Result (OrderedMap Value × List Value)
  | absent => .ok ([], [])
  | named values => do return (← values.toMapping, [])
  | positional values => do return ([], ← values.items)
  | mixed byName inOrder => do return (← byName.toMapping, ← inOrder.items)
  | other .null => .ok ([], [])
  | other v => .error (.unsupportedArguments v.literal)

end RouteArguments

namespace Router

/-- The first entry, verb by verb, that was registered for the action of a target. The target is
given itself or by the name it declares. -/
def findRoute (r : Router) (query : Target) (action : Value) : Option RouteEntry :=
  Verb.all.findSome? fun v =>
    ((r.table v).find? fun p =>
      p.2.kind != .fallback && (Value.text p.2.action).equal action && p.2.target.meantBy query).map
        (·.2)

def isMissing (query : Target) (action : Value) : Bool :=
  !action.truthy || match query with
    | .value .null => true
    | .value (.text "") => true
    | _ => false

/-- The URL of an entry. Of several paths the first is built. -/
def urlOf (e : RouteEntry) (named : OrderedMap Value) (positional : List Value) : Result String :=
  match e.pattern.spec with
  | .text path => .ok (String.ofList (Path.fill named positional path.toList))
  | .alternatives (path :: _) => .ok (String.ofList (Path.fill named positional path.toList))
  | .alternatives [] => .error .noAlternative
  | .regex source =>
    .ok (String.ofList (Regex.Template.fill named positional source.source.toList))
  | .other _ => .error .wrongType

/-- The URL routed to the action of a target, empty if there is none. -/
def urlFor (r : Router) (query : Target) (action : Value) (arguments : RouteArguments) :
    Result String :=
  if isMissing query action then .error .missingArguments
  else
    match r.findRoute query action with
    | none => .ok ""
    | some e => do
      let (named, positional) ← arguments.unpack
      urlOf e named positional

end Router

end ActionRouting
