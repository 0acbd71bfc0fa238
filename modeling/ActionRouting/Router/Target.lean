import ActionRouting.Router.Config

/-! What routes are bound to. -/
namespace ActionRouting

/-- A controller: its identity, the name it declares, the name of its type if it shows one, the
actions it has, and the names under which it has values that are no actions. -/
structure Controller where
  key : String
  name : Option Value := none
  typeName : Option Value := none
  actions : List String
  values : List String := []

def Controller.operationLabel? (c : Controller) (name : String) : Option String :=
  if c.values.contains name then none
  else if name = "__class__" then some "type"
  else if (Value.commonOperations ++ Value.specialOperations "object").contains name then
    some ("object." ++ name)
  else none

/-- The target of a route: a controller, a plain value, or the configuration of the router. -/
inductive Target
  | controller (c : Controller)
  | value (v : Value)
  | config (c : RouterConfig)

/-- The action under which a configuration has the answer for verbs that are not registered. -/
def methodNotAllowedAction : String := "method_not_allowed"

namespace Target

def literal : Target → String
  | controller c => "<controller " ++ c.key ++ ">"
  | value v => v.literal
  | config c => c.literal

def handler? (t : Target) (action : String) : Option Handler :=
  match t with
  | controller c =>
    if c.actions.contains action then some (.action c.key action)
    else (c.operationLabel? action).map (.operation · none)
  | value v => (v.operationLabel? action).map (.operation · (some v))
  | config c =>
    if action = methodNotAllowedAction then c.methodNotAllowed.filter (·.isCallable)
    else (RouterConfig.operationLabel? action).map (.operation · none)

/-- The name under which the target can be looked up: the one it declares if that is a text, else
the name of its type. -/
def declaredName : Target → Value
  | controller c =>
    match c.name with
    | some (.text s) => .text s
    | _ => c.typeName.getD .null
  | _ => .null

/-- Both are one object. All configurations in one table are. -/
def same : Target → Target → Bool
  | controller c, controller d => c.key == d.key
  | value v, value w => v.same w
  | config _, config _ => true
  | _, _ => false

/-- The target is meant by a query: the query is the target, or the name that it declares. -/
def meantBy (t : Target) (query : Target) : Bool :=
  t.same query || match query with
    | value v => t.declaredName.equal v
    | _ => false

end Target

end ActionRouting
