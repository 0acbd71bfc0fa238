import ActionRouting.Value.Equality
import ActionRouting.Value.Printing
import ActionRouting.Fault
import ActionRouting.Text.Search

/-! Taking values apart. Each function fails as the kind of value demands. -/
namespace ActionRouting.Value

/-- The value of a key, or nothing; only a mapping can be asked. -/
def get (v : Value) (key : String) : Result Value :=
  match v with
  | mapping fields => .ok ((OrderedMap.get? key fields).getD null)
  | _ => .error .noSuchMethod

/-- The value of a key, or a given one; only a mapping can be asked. -/
def getOr (v : Value) (key : String) (fallback : Value) : Result Value :=
  match v with
  | mapping fields => .ok ((OrderedMap.get? key fields).getD fallback)
  | _ => .error .noSuchMethod

/-- A mapping's field that is there. -/
def index (v : Value) (key : String) : Result Value :=
  match v with
  | mapping fields =>
    match OrderedMap.get? key fields with
    | some value => .ok value
    | none => .error (.missingKey key)
  | _ => .error .wrongType

/-- The items that a value gives one by one: a text its characters, a mapping its keys. -/
def items : Value → Result (List Value)
  | text s => .ok (s.toList.map fun c => text (String.singleton c))
  | bytes bs => .ok (bs.map fun b => int b.toNat)
  | list items => .ok items
  | tuple items => .ok items
  | mapping fields => .ok (fields.map fun p => text p.1)
  | _ => .error .wrongType

mutual

/-- A value that may be a key: it holds no list and no mapping. -/
def isKey : Value → Bool
  | list _ => false
  | mapping _ => false
  | tuple items => areKeys items
  | _ => true

def areKeys : List Value → Bool
  | [] => true
  | item :: items => isKey item && areKeys items

end

/-- A pair of a key and a value: any two items in a row. -/
def pair (v : Value) : Result (Value × Value) := do
  match ← v.items with
  | [key, value] => if key.isKey then .ok (key, value) else .error .wrongType
  | _ => .error .badValue

/-- Gives a key a value: in the place of an equal key, else at the end. -/
def insertField (key value : Value) : List (Value × Value) → List (Value × Value)
  | [] => [(key, value)]
  | (k, v) :: rest =>
    if k.equal key then (k, value) :: rest else (k, v) :: insertField key value rest

def fieldsOfPairs (v : Value) : Result (List (Value × Value)) := do
  let pairs ← (← v.items).mapM pair
  return pairs.foldl (fun fields p => insertField p.1 p.2 fields) []

/-- The mapping that a value gives: a mapping itself, or the pairs of a sequence. Fields under keys
that are no texts are never asked for. -/
def toMapping : Value → Result (OrderedMap Value)
  | mapping fields => .ok fields
  | v => do
    return OrderedMap.ofPairs ((← v.fieldsOfPairs).filterMap fun p => p.1.asText?.map (·, p.2))

/-- The mapping that a value gives, with every key as it is shown. -/
def toShownMapping : Value → Result (OrderedMap Value)
  | mapping fields => .ok fields
  | v => do return OrderedMap.ofPairs ((← v.fieldsOfPairs).map fun p => (p.1.display, p.2))

/-- An item is among those of a value; a text is searched for a part of it. -/
def holds (v : Value) (part : String) : Result Bool :=
  match v with
  | text s => .ok (Text.occurs part.toList s.toList)
  | list items => .ok (items.any (·.equal (text part)))
  | tuple items => .ok (items.any (·.equal (text part)))
  | mapping fields => .ok ((OrderedMap.keys fields).contains part)
  | _ => .error .wrongType

end ActionRouting.Value
