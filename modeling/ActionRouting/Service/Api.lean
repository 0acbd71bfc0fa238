import ActionRouting.Log.Registry
import ActionRouting.Router.Resources
import ActionRouting.Service.Body
import ActionRouting.Service.Operation

/-! The service: gateway events in, replies out. It keeps the latest event, which its address and
its URLs depend on. -/
namespace ActionRouting.Service

/-- The two loggers that a service writes to. -/
inductive Channel
  | service
  | router
  deriving DecidableEq, Repr

structure Record where
  channel : Channel
  level : Log.Level
  message : String
  deriving DecidableEq, Repr

/-- A service. In place of its router it may have a value that cannot route; then asking for the
router fails. -/
structure Api where
  router : Result Router
  debug : Bool := false
  https : Bool := true
  nextHandler : Option Handler := none
  event : Value := .mapping []
  context : Value := .null
  requestPath : Option Gateway.RequestPath := none

/-- A call that was made: the handler, the request and the allowed verbs if they were given. -/
structure MadeCall where
  handler : Handler
  request : Request
  allowed : Option (List Verb)

/-- What came of an event: the service then, the reply or the cause of failure, the calls made and
the records written. -/
structure Exchange where
  api : Api
  reply : Result Reply
  calls : List MadeCall := []
  records : List Record := []

/-- What a service is made with, as far as it is told. -/
structure Setup where
  router : Option Router := none
  debug : Option Bool := none
  https : Option Bool := none
  nextHandler : Option (Option Handler) := none

namespace Api

/-- The names that no option may have: they stand for what every service is told. -/
def reservedNames : List String := ["configure_logs", "name", "self"]

/-- The names of options that stand for the setup of the service, and do not reach its router. -/
def settingNames : List String := ["debug", "https", "next_handler", "router"]

/-- A setting that is given among the options. What the setup tells may not be told again. -/
def setting (o : Options) (name : String) (told : Bool) : Result (Option Value) :=
  match OrderedMap.get? name o.unknown with
  | none => .ok none
  | some v => if told then .error .wrongType else .ok (some v)

/-- The router of a service: one that is given, which takes no options, or one made from options. A
value may be given in place of a router, and one that is empty is passed over. -/
def routerOf (given : Option Router) (value : Option Value) (o : Options) :
    Result (Result Router) := do
  match given, value.getD .null with
  | none, .null => return .ok (← Router.create none o)
  | given, v =>
    if o.names ≠ [] then throw (.routerWithOptions o.names)
    match given with
    | some r => return .ok r
    | none => if v.truthy then return .error .noSuchMethod else return .ok (← Router.create none o)

/-- A service from its setup and options for its router. Settings may come among the options. -/
def create (s : Setup) (o : Options) : Result Api := do
  if reservedNames.any o.has then throw .wrongType
  let debug ← setting o "debug" s.debug.isSome
  let https ← setting o "https" s.https.isSome
  let next ← setting o "next_handler" s.nextHandler.isSome
  let value ← setting o "router" s.router.isSome
  let router ← routerOf s.router value (o.without settingNames)
  return {
    router
    debug := s.debug.getD (debug.getD (.bool false)).truthy
    https := s.https.getD (https.getD (.bool true)).truthy
    nextHandler := s.nextHandler.getD (next.map Handler.value) }

/-- The address of the service, as the latest event shows it. -/
def host (api : Api) : Result String := do
  let host ← Gateway.hostIn (← Gateway.sectionOf api.event "headers")
  match api.requestPath with
  | none => .error .noSuchMethod
  | some p =>
    return (if api.https then "https" else "http") ++ "://" ++ host.display ++ p.hostSuffix

/-- The URL of an action. Once an event was read, the URL begins where the gateway mounted the
service. -/
def urlFor (api : Api) (query : Target) (action : Value) (arguments : RouteArguments) :
    Result String := do
  let url ← (← api.router).urlFor query action arguments
  match api.requestPath with
  | some p => return if url = "" then url else p.mount ++ url
  | none => return url

def callOf (api : Api) (request : Request) (allowed : Option (List Verb)) : Call :=
  { request, allowed, host := api.host, urlFor := api.urlFor }

/-- Calls a handler, or gives the answer that stands in for it. A failure becomes an error response
and a record. Only calls of handlers that have answers of their own are kept. -/
def call (api : Api) (answers : Answers) (handler : Option Handler) (standIn : Response)
    (request : Request) (allowed : Option (List Verb)) : Outcome × List MadeCall × List Record :=
  match handler with
  | none => (.response standIn, [], [])
  | some h =>
    let (outcome, calls) : Outcome × List MadeCall :=
      match plainOutcome? h with
      | some outcome => (outcome, [])
      | none => (answers h (api.callOf request allowed), [⟨h, request, allowed⟩])
    match outcome with
    | .raised message =>
      (.response (errorResponse .internalServerError message), calls, [⟨.service, .error, message⟩])
    | outcome => (outcome, calls, [])

/-- The answer to a known path requested with another verb. -/
def methodNotAllowed (request : Request) : Response :=
  errorResponse .methodNotAllowed
    ("Method " ++ request.method.display ++ " not defined on route")

def notFound (request : Request) : Response :=
  errorResponse .notFound
    ("No view function for: " ++ request.method.display ++ " - " ++ request.path.display)

def withLowerHeaders (event : Value) : Result (OrderedMap Value) :=
  match event with
  | .mapping fields =>
    match ((OrderedMap.get? "headers" fields).getD .null).orElse (.mapping []) with
    | .mapping headers =>
      .ok (OrderedMap.insert "headers"
        (.mapping (OrderedMap.ofPairs (headers.map fun p => (Text.lower p.1, p.2)))) fields)
    | _ => .error .noSuchMethod
  | _ => .error .noSuchMethod

def requestOf (p : Gateway.RequestPath) (event context : Value) : Result Request := do
  let query ← Gateway.sectionOf event "queryStringParameters"
  let headers ← event.index "headers"
  let body ← bodyOf event
  return { method := p.method, path := p.path, query, headers, body, event, context }

/-- The outcome of a handler that answers for another verb, with the allowed verbs in its headers
unless it names them itself. -/
def withAllow (allowed : List Verb) (o : Outcome) : Result Outcome :=
  match o with
  | .response r => do
    let headers ← (r.headers.orElse (.mapping [])).toShownMapping
    let headers := match OrderedMap.get? "Allow" headers with
      | some _ => headers
      | none => headers ++ [("Allow", .text (allowHeader allowed))]
    return .response { r with headers := .mapping headers }
  | .halted kind => .error (.halted kind)
  | _ => .error .noSuchMethod

def answer (api : Api) (answers : Answers) (config : RouterConfig) (request : Request) :
    Disposition → Exchange
  | .matched m =>
    let head := request.method.equal (.text "HEAD")
    let request := { request with route := some m.entry, params := m.params, args := m.args }
    let (outcome, calls, records) :=
      api.call answers m.entry.handler (notFound request) request none
    { api, reply := outcome.reply head, calls, records }
  | .notAllowed allowed =>
    let head := request.method.equal (.text "HEAD")
    let (outcome, calls, records) :=
      api.call answers config.refusal? (methodNotAllowed request) request (some allowed)
    let told := [⟨.router, .debug, Router.notAllowedNotice request.method request.path allowed⟩,
      ⟨.service, .debug, "405 for " ++ request.method.display ++ " - " ++ request.path.display⟩]
    { api, reply := do (← withAllow allowed outcome).reply head, calls, records := told ++ records }
  | .unmatched =>
    let head := request.method.equal (.text "HEAD")
    let (outcome, calls, records) :=
      api.call answers (api.nextHandler.filter (!·.isEmpty)) (notFound request) request none
    { api, reply := outcome.reply head, calls, records }

def respond (api : Api) (answers : Answers) (request : Request) : Exchange :=
  match api.router with
  | .error e => { api, reply := .error e }
  | .ok router =>
    match router.dispatch request.method request.path with
    | .error e => { api, reply := .error e }
    | .ok disposition => api.answer answers router.config request disposition

/-- Takes an event. The service keeps it even when it cannot be read, and keeps what was read of the
one before until this one is. -/
def handle (api : Api) (answers : Answers) (event context : Value) : Exchange :=
  let told : List Record := [⟨.service, .debug, event.json⟩]
  let api := { api with event, context }
  match withLowerHeaders event with
  | .error e => { api, reply := .error e, records := told }
  | .ok fields =>
    let event := Value.mapping fields
    let api := { api with event }
    match Gateway.RequestPath.ofEvent event with
    | .error e => { api, reply := .error e, records := told }
    | .ok p =>
      let api := { api with requestPath := some p }
      if p.path.isNull then
        { api, reply := (errorResponse .badRequest "Missing or invalid path").reply false,
               records := told }
      else
        match requestOf p event context with
        | .error e => { api, reply := .error e, records := told }
        | .ok request =>
          let x := api.respond answers request
          { x with records := told ++ x.records }

end Api

end ActionRouting.Service
