import ActionRouting.Regex.Token
import ActionRouting.Text.Quoted

/-! Why an operation fails. -/
namespace ActionRouting

/-- The causes of failure. Targets and actions are quoted as they print. -/
inductive Fault
  | invalidVerb (verb : String)
  | actionNotFound (target action : String)
  | missingArguments
  | unknownResourceActions (keys : List String)
  | unsupportedArguments (arguments : String)
  | routerWithOptions (names : List String)
  | badRegex (e : Regex.Error)
  | crossedGroup
  | wrongType
  | noSuchMethod
  | missingKey (key : String)
  | indexOutOfRange
  | badValue
  | noAlternative
  | notAscii
  | badBase64
  | notUtf8
  | notEncodable
  | halted (kind : String)
  deriving DecidableEq, Repr

namespace Fault

def message : Fault → String
  | invalidVerb verb => "Invalid HTTP method: " ++ verb
  | actionNotFound target action => target ++ " has no action " ++ action
  | missingArguments => "url_for() expects a target and an action"
  | unknownResourceActions keys => "Unknown resource actions: " ++ ", ".intercalate keys
  | unsupportedArguments arguments => "Unsupported route arguments: " ++ arguments
  | routerWithOptions names =>
    "API() got router options with an explicit router: " ++ ", ".intercalate names
  | badRegex _ => "invalid regular expression"
  | crossedGroup => "group left before it was entered"
  | wrongType => "value of the wrong type"
  | noSuchMethod => "value without the method"
  | missingKey key => Text.Quoted.text key
  | indexOutOfRange => "tuple index out of range"
  | badValue => "invalid value"
  | noAlternative => ""
  | notAscii => "string argument should contain only ASCII characters"
  | badBase64 => "Incorrect padding"
  | notUtf8 => "invalid utf-8"
  | notEncodable => "surrogates not allowed"
  | halted kind => kind

end Fault

/-- A result or the cause of failure. -/
abbrev Result (α : Type) := Except Fault α

end ActionRouting
