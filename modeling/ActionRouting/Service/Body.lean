import ActionRouting.Service.Message
import ActionRouting.Text.Base64

/-! Bodies between the gateway, which carries text, and handlers, which may give bytes. -/
namespace ActionRouting.Service

/-- The bytes of a body that is not sent as text. A surrogate in a text has none. -/
def bodyBytes : Body → Result (List UInt8)
  | .text s => .ok (Text.Utf8.encode s.toList)
  | .bytes bs => .ok bs
  | .torn _ => .error .notEncodable
  | _ => .error .wrongType

def isBinary (contentType : Value) : Bool :=
  binaryTypes.any fun t => contentType.equal (.text t)

/-- The reply that a response makes; without a body if only its head is asked for. -/
def Response.reply (r : Response) (head : Bool) : Result Reply := do
  let given ← (r.headers.orElse (.mapping [])).toShownMapping
  let headers := OrderedMap.insert "Content-Type" r.contentType given
  let body := if head then .text "" else r.body
  if isBinary r.contentType || !body.isText then
    let bytes ← bodyBytes body
    return { status := r.status, headers, body := .text (String.ofList (Text.Base64.encode bytes)),
             isBase64 := true }
  else return { status := r.status, headers, body }

/-- The reply that comes of a handler. Only responses make one. -/
def Outcome.reply (o : Outcome) (head : Bool) : Result Reply :=
  match o with
  | .response r => r.reply head
  | .halted kind => .error (.halted kind)
  | _ => .error .noSuchMethod

/-- The text of bytes in base 64. -/
def decodeBytes (codes : List Nat) : Result Value :=
  match Text.Base64.decode? codes with
  | none => .error .badBase64
  | some bytes =>
    match Text.Utf8.decode? bytes with
    | none => .error .notUtf8
    | some cs => .ok (.text (String.ofList cs))

/-- The body of an event, decoded if the event says that it is encoded. -/
def bodyOf (event : Value) : Result Value := do
  let body ← event.get "body"
  if body.truthy && (← event.get "isBase64Encoded").truthy then
    match body with
    | .text s =>
      if s.toList.all Text.isAscii then decodeBytes (s.toList.map Char.toNat)
      else .error .notAscii
    | .bytes bs => decodeBytes (bs.map UInt8.toNat)
    | _ => .error .wrongType
  else return body

end ActionRouting.Service
