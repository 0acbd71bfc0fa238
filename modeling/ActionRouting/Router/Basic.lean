import ActionRouting.Router.Table
import ActionRouting.Text.LetterCase

/-! The router: a configuration and a table for each verb. Registering a path for one verb gives
every other verb a fallback, and a `GET` route also serves `HEAD`. -/
namespace ActionRouting

structure Router where
  config : RouterConfig
  routes : PerVerb Table := .ofFn fun _ => []

namespace Router

/-- The configuration that a router starts from, and the options that are left to apply. One that is
not told may come under the option `config`. No value is a configuration, and only an empty one
stands for the default. -/
def base (config : Option RouterConfig) (o : Options) : Result (RouterConfig × Options) :=
  match config with
  | some config => if o.has "config" then .error .wrongType else .ok (config, o)
  | none =>
    let told := (OrderedMap.get? "config" o.unknown).getD .null
    if !told.truthy then .ok ({}, o.without ["config"])
    else if told.answersTo "replace" then .error .wrongType
    else .error .noSuchMethod

/-- A router without routes, from a configuration, if one is told, and options. -/
def create (config : Option RouterConfig) (o : Options) : Result Router := do
  if o.has "self" then throw .wrongType
  let (config, o) ← base config o
  return { config := ← config.replace o }

def reset (r : Router) : Router := { config := r.config }

def configure (r : Router) (o : Options) : Result Router := do
  return { config := ← r.config.replace o }

def table (r : Router) (v : Verb) : Table := r.routes.lookup v

def entry? (r : Router) (v : Verb) (source : String) : Option RouteEntry :=
  OrderedMap.get? source (r.table v)

def sources (r : Router) : List String := OrderedMap.keys (r.table .get)

def compile (r : Router) (spec : PathSpec) : Result Pattern :=
  Pattern.compile r.config.caseSensitive.truthy r.config.strictSlashes.truthy spec

/-- The verb that a value names; without one it is `GET`. Case does not matter. -/
def readVerb (v : Value) : Result Verb :=
  let name : Result String := match v.orElse (.text "GET") with
    | .text s => .ok (Text.upper s)
    | .bytes bs =>
      .ok (Value.bytes (bs.map fun b => (Char.ofNat b.toNat).toUpper.toNat.toUInt8)).literal
    | _ => .error .noSuchMethod
  do
    let name ← name
    match Verb.ofName? name with
    | some verb => .ok verb
    | none => .error (.invalidVerb name)

def readAction (target : Target) (action : Value) : Result (Option Handler) :=
  match action with
  | .text name => .ok (target.handler? name)
  | _ => .error .wrongType

/-- Checks a registration: its verb, then its action, then its path. Without an action it is
`show`. -/
def prepare (r : Router) (spec : PathSpec) (target : Target) (action verb : Value) :
    Result Registration := do
  let action := action.orElse (.text "show")
  let verb ← readVerb verb
  match ← readAction target action with
  | none => .error (.actionNotFound target.literal action.literal)
  | some handler =>
    let pattern ← r.compile spec
    return ⟨verb, pattern, target, action.display, handler⟩

def add (r : Router) (g : Registration) : Router :=
  { r with routes := .ofFn fun v => (r.table v).add r.config g v }

/-- Binds a path to the action of a target for a verb. -/
def route (r : Router) (spec : PathSpec) (target : Target) (action verb : Value) :
    Result Router := do
  return r.add (← r.prepare spec target action verb)

end Router

end ActionRouting
