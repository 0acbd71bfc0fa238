import ActionRouting.Service.Api

/-! A small service: pets as a resource, and files behind a wildcard and a format parameter. -/
namespace ActionRouting.Showcase

open Service

def pets : Controller where
  key := "Pets"
  name := some (.text "pets")
  actions := ["list", "show", "edit", "create"]

def files : Controller where
  key := "Files"
  actions := ["download", "report"]

def okResponse (contentType : String) (body : Value) : Outcome :=
  .response { status := .int Status.ok.code, contentType := .text contentType, body := .value body }

/-- What a computation of a body comes to. -/
def fromBody (contentType : String) : Result Value → Outcome
  | .ok body => okResponse contentType body
  | .error e => .raised e.message

/-- The parameter that a request cannot do without. -/
def required (request : Request) (name : String) : Result String :=
  match OrderedMap.get? name request.params with
  | some s => .ok s
  | none => .error (.missingKey name)

def answers : Answers := fun handler c =>
  match handler with
  | .action "Pets" "list" =>
    okResponse "application/json"
      (.text (Value.mapping [("pets", .list [.text "cat", .text "dog"])]).json)
  | .action "Pets" "show" =>
    fromBody "application/json" do
      let id ← required c.request "id"
      let link ← c.urlFor (.controller pets) (.text "edit") (.named (.mapping [("id", .text id)]))
      return .text (Value.mapping [("id", .text id), ("edit", .text link)]).json
  | .action "Pets" "edit" =>
    fromBody "text/html" do
      return .text ("<form>" ++ (← required c.request "id") ++ "</form>")
  | .action "Pets" "create" => okResponse "text/plain" c.request.body
  | .action "Files" "download" =>
    fromBody "text/plain" <|
      match c.request.args with
      | [] => .error .indexOutOfRange
      | arg :: _ => .ok (.text (arg.getD ""))
  | .action "Files" "report" =>
    okResponse "text/plain" (.text ((OrderedMap.get? "format" c.request.params).getD "txt"))
  | _ => .raised ""

def router : Result Router := do
  let r ← Router.create none {}
  let r := (r.resources (.text "/pets") (.controller pets) (.text ":id")).router
  let r ← r.route (.text "/files/*") (.controller files) (.text "download") .null
  r.route (.text "/reports/:year(\\d\x7b4\x7d).:format?") (.controller files) (.text "report") .null

def start : Result Api := do return { router := .ok (← router) }

end ActionRouting.Showcase
