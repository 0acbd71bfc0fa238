import ActionRouting.Gateway.GreedyProxy
import ActionRouting.Text.LetterCase
import ActionRouting.Value.Access
import ActionRouting.Value.Printing
import ActionRouting.Text.Search

/-! The verb and the path of a gateway event, and where the gateway mounted the service. Events come
in two payload versions, and whatever they hold is read with care. -/
namespace ActionRouting.Gateway

/-- What a gateway event says about its request. -/
structure RequestPath where
  version : Value
  method : Value
  stage : Value
  path : Value
  apiPrefix : String
  pathMapping : String

/-- A value in upper case, if it is text or bytes. -/
def upperValue : Value → Result Value
  | .text s => .ok (.text (Text.upper s))
  | .bytes bs =>
    .ok (.bytes (bs.map fun b => if 97 ≤ b.toNat ∧ b.toNat ≤ 122 then b - 32 else b))
  | _ => .error .noSuchMethod

/-- The mapping under a key of an event, empty if it is absent. -/
def sectionOf (event : Value) (key : String) : Result Value := do
  return (← event.get key).orElse (.mapping [])

def methodOf (event : Value) : Result Value := do
  let method ← event.get "httpMethod"
  if method.truthy then upperValue method
  else
    let http ← (← sectionOf event "requestContext").get "http"
    upperValue (← (http.orElse (.mapping [])).getOr "method" (.text ""))

/-- The host that headers name, the forwarded one first. -/
def hostIn (headers : Value) : Result Value := do
  let host ← headers.getOr "host" (.text "")
  headers.getOr "x-forwarded-host" host

def isGatewayHost (host : Value) : Result Bool := do
  if ← host.holds ".execute-api." then host.holds ".amazonaws.com" else return false

/-- The stage, which shows only in the paths of the gateway's own hosts. -/
def stageOf (event : Value) : Result Value := do
  let host ← hostIn (← sectionOf event "headers")
  if ← isGatewayHost host then (← sectionOf event "requestContext").getOr "stage" (.text "")
  else return .text ""

def rawPathOf (event : Value) : Result Value := do
  return (← event.get "path").orElse (← event.get "rawPath")

/-- A text, or the failure that any other value is. -/
def textOf : Value → Result (List Char)
  | .text s => .ok s.toList
  | _ => .error .wrongType

/-- The path to route on: what a greedy proxy took, or the path of the event. -/
def pathOf (event : Value) : Result Value := do
  let resource ← textOf ((← event.get "resource").orElse (.text "/"))
  match GreedyProxy.find? resource with
  | none => rawPathOf event
  | some proxy =>
    let parameters ← sectionOf event "pathParameters"
    let taken ← parameters.get (String.ofList proxy.name)
    let rest ← textOf (taken.orElse (.text ""))
    return .text (String.ofList ('/' :: rest))

/-- The resource before its greedy proxy part, without slashes at the end. -/
def apiPrefixOf (event : Value) : Result String := do
  let resource ← textOf ((← event.get "resource").orElse (.text ""))
  return String.ofList ((GreedyProxy.strip resource).reverse.dropWhile (· == '/')).reverse

/-- What is left of the path of the event when the resource and the path to route on are taken out:
the mapping of a custom domain. -/
def pathMappingOf (event : Value) (apiPrefix : String) (path : Value) : Result String := do
  match (← rawPathOf event).orElse (.text "") with
  | .text whole =>
    let routed ← textOf path
    return String.ofList (Text.remove (apiPrefix.toList ++ routed) whole.toList)
  | .bytes _ => .error .wrongType
  | _ => .error .noSuchMethod

namespace RequestPath

def ofEvent (event : Value) : Result RequestPath := do
  let version ← event.get "version"
  let method ← methodOf event
  let stage ← stageOf event
  let path ← pathOf event
  let apiPrefix ← apiPrefixOf event
  let pathMapping ←
    if !stage.truthy && path.truthy then pathMappingOf event apiPrefix path else pure ""
  return { version, method, stage, path, apiPrefix, pathMapping }

/-- The stage takes part in paths: there is one, and it is not the default stage. -/
def showsStage (p : RequestPath) : Bool := p.stage.truthy && !p.stage.equal (.text "$default")

/-- What comes before the routed path in the path of a URL. -/
def mount (p : RequestPath) : String :=
  if p.showsStage then "/" ++ p.stage.display ++ p.apiPrefix
  else if p.pathMapping ≠ "" then p.pathMapping ++ p.apiPrefix
  else p.apiPrefix

/-- What comes after the host in the address of the service. -/
def hostSuffix (p : RequestPath) : String :=
  if p.showsStage then "/" ++ p.stage.display else p.pathMapping

end RequestPath

end ActionRouting.Gateway
