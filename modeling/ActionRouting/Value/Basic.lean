import ActionRouting.OrderedMap

/-! The loosely typed values of events, options and URL arguments. -/
namespace ActionRouting

/-- A value: nothing, a truth value, a number, a text, bytes, a list, a tuple, or a mapping. -/
inductive Value
  | null
  | bool (b : Bool)
  | int (i : Int)
  | float (x : Float)
  | text (s : String)
  | bytes (bs : List UInt8)
  | list (items : List Value)
  | tuple (items : List Value)
  | mapping (fields : List (String × Value))
  deriving Inhabited

namespace Value

/-- What counts as true: all but nothing, falsehood, zero, and what is empty. -/
def truthy : Value → Bool
  | null => false
  | bool b => b
  | int i => i != 0
  | float x => x != 0
  | text s => s != ""
  | bytes bs => !bs.isEmpty
  | list items => !items.isEmpty
  | tuple items => !items.isEmpty
  | mapping fields => !fields.isEmpty

/-- The first value if it counts as true, else the second. -/
def orElse (a b : Value) : Value := if a.truthy then a else b

def isNull : Value → Bool
  | null => true
  | _ => false

def asText? : Value → Option String
  | text s => some s
  | _ => none

end Value

end ActionRouting
