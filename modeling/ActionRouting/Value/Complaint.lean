import ActionRouting.Value.Access
import ActionRouting.Value.Methods

/-! What is told of a value that cannot be used in some way. -/
namespace ActionRouting.Value

def notIterable (v : Value) : String := "'" ++ v.kindName ++ "' object is not iterable"

def notCallable (v : Value) : String := "'" ++ v.kindName ++ "' object is not callable"

mutual

/-- The kind that keeps a value from being a key: that of the first list or mapping in it. -/
def unhashable? : Value → Option String
  | list _ => some "list"
  | mapping _ => some "dict"
  | tuple items => firstUnhashable? items
  | _ => none

def firstUnhashable? : List Value → Option String
  | [] => none
  | item :: items => unhashable? item <|> firstUnhashable? items

end

/-- Told of an item of a sequence that is no pair of a key and a value. -/
def pairComplaint? (index : Nat) (v : Value) : Option String :=
  match v.items with
  | .error _ =>
    some ("cannot convert dictionary update sequence element #" ++ toString index ++
      " to a sequence")
  | .ok [key, _] => key.unhashable?.map fun kind => "unhashable type: '" ++ kind ++ "'"
  | .ok items =>
    some ("dictionary update sequence element #" ++ toString index ++ " has length " ++
      toString items.length ++ "; 2 is required")

/-- Told of a value that makes no mapping: it has no items, or one of them is no pair. -/
def mappingComplaint (v : Value) : String :=
  match v.items with
  | .error _ => v.notIterable
  | .ok items => (items.zipIdx.findSome? fun p => pairComplaint? p.2 p.1).getD ""

/-- Told of a value that is no mapping and is asked for the item under a value of some kind. -/
def subscriptComplaint (v : Value) (kind : String) : String :=
  match v with
  | text _ => "string indices must be integers, not '" ++ kind ++ "'"
  | bytes _ => "byte indices must be integers or slices, not " ++ kind
  | list _ => "list indices must be integers or slices, not " ++ kind
  | tuple _ => "tuple indices must be integers or slices, not " ++ kind
  | v => "'" ++ v.kindName ++ "' object is not subscriptable"

end ActionRouting.Value
