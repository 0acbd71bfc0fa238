import ActionRouting.Service.Failure

/-! Scripted handlers: what a handler does, as data. -/
namespace ActionRouting.Service

inductive BodySource
  | constant (b : Body)
  | param (key : String)
  | arg (index : Value)
  | query (key : String)
  | header (key : String)
  | requestBody
  | host
  | allowed
  | urlFor (target : Target) (action : Value) (arguments : RouteArguments)

/-- A script: a failure to raise, a value to return in place of a response, or a response. -/
inductive Script
  | raise (kind : String) (args : List Value)
  | returnValue (v : Value)
  | respond (status : Value) (contentType : Value) (headers : Value) (body : BodySource)

namespace Script

/-- The item at a position, counted from the end if the position is negative. -/
def itemAt {α : Type} (items : List α) (index : Int) : Option α :=
  let i := if index < 0 then index + items.length else index
  if i < 0 then none else items[i.toNat]?

/-- The position that a value stands for, or what is told of a value that stands for none. -/
def positionOf : Value → Except String Int
  | .bool b => .ok (if b then 1 else 0)
  | .int i =>
    if Failure.fitsWord i then .ok i else .error "cannot fit 'int' into an index-sized integer"
  | v => .error ((Value.tuple []).subscriptComplaint v.kindName)

def argumentsComplaint : RouteArguments → String
  | .named values => values.mappingComplaint
  | .positional values => values.notIterable
  | .mixed named positional =>
    match named.toMapping with
    | .error _ => named.mappingComplaint
    | .ok _ => positional.notIterable
  | _ => ""

/-- The field of a request under a key, or what is told if there is none. -/
def fieldOf (fields : Value) (key : String) : Except String Value :=
  match fields.index key with
  | .ok v => .ok v
  | .error (.missingKey key) => .error (Fault.missingKey key).message
  | .error _ => .error (fields.subscriptComplaint "str")

def bodyFrom (c : Call) : BodySource → Except String Body
  | .constant b => .ok b
  | .param key =>
    match OrderedMap.get? key c.request.params with
    | some s => .ok (.text s)
    | none => .error (Fault.missingKey key).message
  | .arg index => do
    match itemAt c.request.args (← positionOf index) with
    | some (some s) => .ok (.text s)
    | some none => .ok (.value .null)
    | none => .error Fault.indexOutOfRange.message
  | .query key => .value <$> fieldOf c.request.query key
  | .header key => .value <$> fieldOf c.request.headers key
  | .requestBody => .ok (.value c.request.body)
  | .host => (c.host.map .text).mapError Fault.message
  | .allowed =>
    match c.allowed with
    | some allowed => .ok (.text ("|".intercalate (allowed.map Verb.name)))
    | none => .error Fault.indexOutOfRange.message
  | .urlFor target action arguments =>
    match c.urlFor target action arguments with
    | .ok url => .ok (.text url)
    | .error .wrongType | .error .badValue => .error (argumentsComplaint arguments)
    | .error e => .error e.message

/-- The status that a script gives: the code of a name, or any other value as it is. -/
def statusFrom : Value → Except String Value
  | .text name =>
    match Status.ofName? name with
    | some status => .ok (.int status.code)
    | none => .error (Fault.missingKey name).message
  | v => .ok v

def response (c : Call) (status contentType headers : Value) (body : BodySource) :
    Except String Response := do
  let status ← statusFrom status
  let body ← bodyFrom c body
  return { status, contentType, body, headers }

def answer (c : Call) : Script → Outcome
  | .raise kind args =>
    if Failure.haltingKinds.contains kind then .halted kind else .raised (Failure.text kind args)
  | .returnValue v => .value v
  | .respond status contentType headers body =>
    match response c status contentType headers body with
    | .ok r => .response r
    | .error told => .raised told

end Script

end ActionRouting.Service
