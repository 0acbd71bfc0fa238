import ActionRouting.Value.Basic

/-! The operations that a plain value answers to, so that it can be the target of a route. An
operation is labelled by the kind that it is taken from and its name. -/
namespace ActionRouting.Value

def kindName : Value → String
  | null => "NoneType"
  | bool _ => "bool"
  | int _ => "int"
  | float _ => "float"
  | text _ => "str"
  | bytes _ => "bytes"
  | list _ => "list"
  | tuple _ => "tuple"
  | mapping _ => "dict"

def integerMethods : List String :=
  ["as_integer_ratio", "bit_count", "bit_length", "conjugate", "from_bytes", "to_bytes"]

def floatMethods : List String :=
  ["as_integer_ratio", "conjugate", "fromhex", "hex", "is_integer"]

def stringMethods : List String :=
  ["capitalize", "center", "count", "endswith", "expandtabs", "find", "index", "isalnum", "isalpha",
    "isascii", "isdigit", "islower", "isspace", "istitle", "isupper", "join", "ljust", "lower",
    "lstrip", "maketrans", "partition", "removeprefix", "removesuffix", "replace", "rfind",
    "rindex", "rjust", "rpartition", "rsplit", "rstrip", "split", "splitlines", "startswith",
    "strip", "swapcase", "title", "translate", "upper", "zfill"]

def textMethods : List String :=
  ["casefold", "encode", "format", "format_map", "isdecimal", "isidentifier", "isnumeric",
    "isprintable"]

def bytesMethods : List String := ["decode", "fromhex", "hex"]

def listMethods : List String :=
  ["append", "clear", "copy", "count", "extend", "index", "insert", "pop", "remove", "reverse",
    "sort"]

def tupleMethods : List String := ["count", "index"]

def mappingMethods : List String :=
  ["clear", "copy", "fromkeys", "get", "items", "keys", "pop", "popitem", "setdefault", "update",
    "values"]

/-- The operations of a value that are asked for by plain names. -/
def methods : Value → List String
  | null => []
  | bool _ => integerMethods
  | int _ => integerMethods
  | float _ => floatMethods
  | text _ => stringMethods ++ textMethods
  | bytes _ => stringMethods ++ bytesMethods
  | list _ => listMethods
  | tuple _ => tupleMethods
  | mapping _ => mappingMethods

/-- Special operations that every value takes from its own kind. -/
def commonOperations : List String :=
  ["__dir__", "__format__", "__getstate__", "__init_subclass__", "__new__", "__reduce__",
    "__reduce_ex__", "__repr__", "__sizeof__", "__subclasshook__"]

def comparisons : List String := ["__eq__", "__ge__", "__gt__", "__le__", "__lt__", "__ne__"]

def unaryOperations : List String :=
  ["__abs__", "__bool__", "__float__", "__int__", "__neg__", "__pos__"]

def arithmetic : List String :=
  ["__add__", "__divmod__", "__floordiv__", "__mod__", "__mul__", "__pow__", "__radd__",
    "__rdivmod__", "__rfloordiv__", "__rmod__", "__rmul__", "__rpow__", "__rsub__", "__rtruediv__",
    "__sub__", "__truediv__"]

def bitOperations : List String :=
  ["__and__", "__or__", "__rand__", "__ror__", "__rxor__", "__xor__"]

def shifts : List String := ["__lshift__", "__rlshift__", "__rrshift__", "__rshift__"]

def roundings : List String := ["__ceil__", "__floor__", "__round__", "__trunc__"]

def sequenceOperations : List String :=
  ["__add__", "__contains__", "__getitem__", "__iter__", "__len__", "__mul__", "__rmul__"]

/-- The special operations that a kind declares. The kind `object` is above every other. -/
def specialOperations : String → List String
  | "object" =>
    comparisons ++
      ["__delattr__", "__getattribute__", "__hash__", "__init__", "__setattr__", "__str__"]
  | "NoneType" => ["__bool__"]
  | "bool" => bitOperations ++ roundings ++ ["__getnewargs__"]
  | "int" =>
    comparisons ++ unaryOperations ++ arithmetic ++ bitOperations ++ shifts ++ roundings ++
      ["__getattribute__", "__getnewargs__", "__hash__", "__index__", "__invert__"]
  | "float" =>
    comparisons ++ unaryOperations ++ arithmetic ++ roundings ++
      ["__getattribute__", "__getformat__", "__getnewargs__", "__hash__"]
  | "str" =>
    comparisons ++ sequenceOperations ++
      ["__getattribute__", "__getnewargs__", "__hash__", "__mod__", "__rmod__", "__str__"]
  | "bytes" =>
    comparisons ++ sequenceOperations ++
      ["__bytes__", "__getattribute__", "__getnewargs__", "__hash__", "__mod__", "__rmod__",
        "__str__"]
  | "list" =>
    comparisons ++ sequenceOperations ++
      ["__class_getitem__", "__delitem__", "__getattribute__", "__iadd__", "__imul__", "__init__",
        "__reversed__", "__setitem__"]
  | "tuple" =>
    comparisons ++ sequenceOperations ++
      ["__class_getitem__", "__getattribute__", "__getnewargs__", "__hash__"]
  | "dict" =>
    comparisons ++
      ["__class_getitem__", "__contains__", "__delitem__", "__getattribute__", "__getitem__",
        "__init__", "__ior__", "__iter__", "__len__", "__or__", "__reversed__", "__ror__",
        "__setitem__"]
  | _ => []

/-- The kinds whose special operations a value has, its own first. -/
def ancestry : Value → List String
  | bool _ => ["bool", "int", "object"]
  | v => [v.kindName, "object"]

/-- Special operations of every kind that a value refuses: what can change has no hash. -/
def refused : Value → List String
  | list _ => ["__hash__"]
  | mapping _ => ["__hash__"]
  | _ => []

def operationLabel? (v : Value) (name : String) : Option String :=
  if name = "__class__" then some v.kindName
  else if v.methods.contains name || commonOperations.contains name then
    some (v.kindName ++ "." ++ name)
  else if v.refused.contains name then none
  else
    (v.ancestry.find? fun kind => (specialOperations kind).contains name).map (· ++ "." ++ name)

def answersTo (v : Value) (name : String) : Bool := (v.operationLabel? name).isSome

end ActionRouting.Value
