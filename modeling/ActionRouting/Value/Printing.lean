import ActionRouting.Value.Basic
import ActionRouting.Text.Quoted
import ActionRouting.Text.Shortest

/-! Values as text: as literals, for display, and in JSON. -/
namespace ActionRouting.Value

mutual

/-- A value as a literal. A tuple of one item keeps a comma. -/
def literal : Value → String
  | null => "None"
  | bool b => if b then "True" else "False"
  | int i => toString i
  | float x => Text.Shortest.text x
  | text s => Text.Quoted.text s
  | bytes bs => Text.Quoted.bytes bs
  | list items => "[" ++ ", ".intercalate (literals items) ++ "]"
  | tuple [item] => "(" ++ literal item ++ ",)"
  | tuple items => "(" ++ ", ".intercalate (literals items) ++ ")"
  | mapping fields => "\x7b" ++ ", ".intercalate (fieldLiterals fields) ++ "\x7d"

def literals : List Value → List String
  | [] => []
  | item :: items => literal item :: literals items

def fieldLiterals : List (String × Value) → List String
  | [] => []
  | (key, value) :: fields =>
    (Text.Quoted.text key ++ ": " ++ literal value) :: fieldLiterals fields

end

/-- A value as it is shown inside a text: a text as it is, any other as a literal. -/
def display : Value → String
  | text s => s
  | v => v.literal

mutual

/-- A value in JSON. Tuples are arrays, and bytes are the text of their literal. -/
def json : Value → String
  | null => "null"
  | bool b => if b then "true" else "false"
  | int i => toString i
  | float x => Text.Shortest.json x
  | text s => Text.Quoted.json s
  | bytes bs => Text.Quoted.json (Text.Quoted.bytes bs)
  | list items => "[" ++ ", ".intercalate (jsons items) ++ "]"
  | tuple items => "[" ++ ", ".intercalate (jsons items) ++ "]"
  | mapping fields => "\x7b" ++ ", ".intercalate (fieldJsons fields) ++ "\x7d"

def jsons : List Value → List String
  | [] => []
  | item :: items => json item :: jsons items

def fieldJsons : List (String × Value) → List String
  | [] => []
  | (key, value) :: fields => (Text.Quoted.json key ++ ": " ++ json value) :: fieldJsons fields

end

end ActionRouting.Value
