import ActionRouting.Value.Access
import ActionRouting.Value.Printing
import ActionRouting.Regex.Matcher

/-! Path specifications: what a route is registered with. -/
namespace ActionRouting

/-- A path as it is registered: a text, several texts of which any may match, a regular expression,
or a value that is no path and fails when it is compiled. -/
inductive PathSpec
  | text (s : String)
  | alternatives (paths : List String)
  | regex (r : Regex)
  | other (v : Value)

namespace PathSpec

/-- A value as a path. Any sequence of texts gives alternatives. -/
def ofValue : Value → PathSpec
  | .text s => .text s
  | v =>
    match v.items with
    | .ok items =>
      match items.mapM Value.asText? with
      | some paths => .alternatives paths
      | none => .other v
    | .error _ => .other v

end PathSpec

end ActionRouting
