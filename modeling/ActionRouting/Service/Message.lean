import ActionRouting.Router.Dispatch
import ActionRouting.Router.Reverse
import ActionRouting.Gateway.RequestPath

/-! Requests, responses, and the handlers between them. -/
namespace ActionRouting.Service

/-- A request as handlers see it. -/
structure Request where
  method : Value
  path : Value
  params : OrderedMap String := []
  args : List (Option String) := []
  query : Value
  headers : Value
  body : Value
  route : Option RouteEntry := none
  event : Value
  context : Value

/-- The body of a response or of a reply: a value, or a text that no bytes spell. -/
inductive Body
  | value (v : Value)
  | torn (t : Text.Utf8.Torn)

namespace Body

@[match_pattern]
abbrev text (s : String) : Body := .value (.text s)

@[match_pattern]
abbrev bytes (bs : List UInt8) : Body := .value (.bytes bs)

/-- The text of a body that is a text of characters. -/
def text? : Body → Option String
  | .text s => some s
  | _ => none

theorem text?_eq_some {b : Body} {s : String} : b.text? = some s ↔ b = .text s := by
  unfold text?
  split
  · simp
  · next h => exact ⟨nofun, fun hb => absurd hb (h s)⟩

/-- The body is a text, of whatever code points. -/
def isText : Body → Bool
  | .text _ => true
  | .torn _ => true
  | _ => false

end Body

/-- A response as handlers give it. -/
structure Response where
  status : Value
  contentType : Value
  body : Body
  headers : Value := .null

/-- The status codes that the service itself gives. -/
inductive Status
  | ok
  | badRequest
  | notFound
  | methodNotAllowed
  | internalServerError
  deriving DecidableEq, Repr

namespace Status

def all : List Status := [ok, badRequest, notFound, methodNotAllowed, internalServerError]

def code : Status → Int
  | ok => 200
  | badRequest => 400
  | notFound => 404
  | methodNotAllowed => 405
  | internalServerError => 500

def name : Status → String
  | ok => "OK"
  | badRequest => "BAD_REQUEST"
  | notFound => "NOT_FOUND"
  | methodNotAllowed => "METHOD_NOT_ALLOWED"
  | internalServerError => "INTERNAL_SERVER_ERROR"

def ofName? (name : String) : Option Status := all.find? (·.name == name)

end Status

def errorResponse (status : Status) (message : String) : Response where
  status := .int status.code
  contentType := .text "application/json"
  body := .text (Value.mapping [("errorMessage", .text message)]).json

/-- What comes of a handler: a response, another value in its place, a failure with its text, or an
end of the whole program, which is no failure of the handler. -/
inductive Outcome
  | response (r : Response)
  | value (v : Value)
  | raised (message : String)
  | halted (kind : String)

/-- What a handler is called with: the request, the allowed verbs if it answers for another verb,
and, from the service, its address and its URLs. -/
structure Call where
  request : Request
  allowed : Option (List Verb) := none
  host : Result String
  urlFor : Target → Value → RouteArguments → Result String

abbrev Answers := Handler → Call → Outcome

/-- The answer to the gateway. -/
structure Reply where
  status : Value
  headers : OrderedMap Value
  body : Body
  isBase64 : Bool := false

/-- The content types whose bodies travel in base 64. -/
def binaryTypes : List String :=
  ["application/octet-stream", "application/x-protobuf", "application/x-tar", "application/zip",
    "image/png", "image/jpeg", "image/jpg", "image/tiff", "image/webp", "image/jp2"]

end ActionRouting.Service
