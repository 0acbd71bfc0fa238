import ActionRouting.Service.Message
import ActionRouting.Value.Complaint

/-! Operations as handlers. What an operation of a plain value does with a request does not depend
on any script: it gives some other value, or it complains about the request. -/
namespace ActionRouting.Service

namespace Operation

/-- Operations that give a value whatever they are called with, by their names or labels. -/
def givers : List String :=
  Value.comparisons ++
    ["RouterConfig", "RouterConfig.__init__", "__class_getitem__", "__subclasshook__", "bool",
      "bytes.__rmod__", "dict.__or__", "dict.__ror__", "list.__contains__", "list.append",
      "list.count", "object.__init__", "str", "str.__rmod__", "str.format", "str.format_map",
      "tuple.__contains__", "tuple.count", "type"]

/-- The kinds of numbers: an operation of two of them gives a value for anything else. -/
def numberKinds : List String := ["bool", "float", "int"]

/-- A text or bytes where a place for an argument is marked. -/
def marksPlace : Value → Bool
  | .text s => Text.occurs ['%'] (s.replace "%%" "").toList
  | .bytes bs => bs.contains 0x25
  | _ => false

def givesValue (subject : Option Value) (kind name label : String) : Bool :=
  givers.contains label || givers.contains name ||
    (numberKinds.contains kind &&
      (Value.arithmetic ++ Value.bitOperations ++ Value.shifts).contains name) ||
    (name == "__mod__" && subject.any marksPlace) ||
    (label == "str.translate" && subject.any fun v => !v.truthy)

/-- Complaints that name no operation, each with the operations that make it. -/
def bareComplaints : List (String × List String) :=
  [("must be str, not Request",
      ["str.count", "str.find", "str.index", "str.partition", "str.rfind", "str.rindex",
        "str.rpartition"]),
    ("must be str or None, not Request", ["str.rsplit", "str.split"]),
    ("argument should be integer or bytes-like object, not 'Request'",
      ["bytes.count", "bytes.find", "bytes.index", "bytes.rfind", "bytes.rindex"]),
    ("a bytes-like object is required, not 'Request'",
      ["bytes.__contains__", "bytes.lstrip", "bytes.partition", "bytes.removeprefix",
        "bytes.removesuffix", "bytes.rpartition", "bytes.rsplit", "bytes.rstrip", "bytes.split",
        "bytes.strip", "bytes.translate"]),
    ("unhashable type: 'Request'",
      ["dict.__contains__", "dict.__delitem__", "dict.__getitem__", "dict.get", "dict.pop",
        "dict.setdefault"]),
    ("'Request' object is not iterable",
      ["__iadd__", "__ior__", "dict", "dict.__init__", "dict.fromkeys", "dict.update", "list",
        "list.__init__", "list.extend", "tuple"]),
    ("'Request' object is not subscriptable", ["str.translate"]),
    ("list indices must be integers or slices, not Request",
      ["list.__delitem__", "list.__getitem__"]),
    ("tuple indices must be integers or slices, not Request", ["tuple.__getitem__"]),
    ("string indices must be integers, not 'Request'", ["str.__getitem__"]),
    ("byte indices must be integers or slices, not Request", ["bytes.__getitem__"]),
    ("can only concatenate list (not \"Request\") to list", ["list.__add__"]),
    ("can only concatenate str (not \"Request\") to str", ["str.__add__"]),
    ("can only concatenate tuple (not \"Request\") to tuple", ["tuple.__add__"]),
    ("can't concat Request to bytes", ["bytes.__add__"]),
    ("'in <string>' requires string as left operand, not Request", ["str.__contains__"]),
    ("not all arguments converted during string formatting", ["str.__mod__"]),
    ("not all arguments converted during bytes formatting", ["bytes.__mod__"]),
    ("object of type 'Request' has no len()", ["bytes.hex"]),
    ("bad argument type for built-in operation", ["float.fromhex"]),
    ("cannot convert 'Request' object to bytes", ["bytes", "from_bytes"]),
    ("if you give only one argument to maketrans it must be a dict", ["str.maketrans"]),
    ("can only join an iterable", ["join"]),
    ("'Request' object cannot be interpreted as an integer",
      ["__imul__", "__mul__", "__reduce_ex__", "__rmul__", "__round__", "center", "expandtabs",
        "list.pop", "ljust", "rjust", "splitlines", "to_bytes", "zfill"]),
    ("attribute name must be string, not 'Request'", ["__getattribute__", "object.__delattr__"]),
    (" expected 2 arguments, got 1", ["__setitem__", "object.__setattr__"]),
    ("expected 0 arguments, got 1",
      ["__abs__", "__bool__", "__float__", "__hash__", "__index__", "__int__", "__invert__",
        "__iter__", "__len__", "__neg__", "__pos__", "__repr__", "__str__"])]

def namedComplaints : List (String × List String) :=
  [("() argument must be str, not Request",
      ["__format__", "__getformat__", "bytes.fromhex", "str.removeprefix", "str.removesuffix"]),
    ("() argument 'encoding' must be str, not Request", ["decode", "encode"]),
    (" arg must be None or str", ["str.lstrip", "str.rstrip", "str.strip"]),
    (" expected 2 arguments, got 1", ["bytes.maketrans", "insert"]),
    (" expected at least 2 arguments, got 1", ["replace"]),
    (" first arg must be bytes or a tuple of bytes, not Request",
      ["bytes.endswith", "bytes.startswith"]),
    (" first arg must be str or a tuple of str, not Request", ["str.endswith", "str.startswith"]),
    ("() takes no positional arguments", ["sort"])]

def labelledComplaints : List (String × List String) :=
  [("(X): X is not a type object (Request)", ["__new__"]),
    ("(x): x not in list", ["list.remove"]),
    ("(x): x not in tuple", ["tuple.index"]),
    (" takes no arguments", ["NoneType"]),
    ("() argument must be a string or a real number, not 'Request'", ["float"]),
    ("() argument must be a string, a bytes-like object or a real number, not 'Request'", ["int"]),
    ("() missing 1 required positional argument: 'value'", ["RouterConfig.__setattr__"]),
    ("() takes 1 positional argument but 2 were given",
      ["RouterConfig.__hash__", "RouterConfig.__repr__", "RouterConfig.replace"])]

/-- The complaint that a table has for an operation: under its label, else under its name. -/
def lookUp (table : List (String × List String)) (name label : String) : Option String :=
  (table.find? (·.2.contains label) <|> table.find? (·.2.contains name)).map (·.1)

/-- The complaint of an operation that is called with a request. Most take no argument at all. -/
def complaint (name label : String) : String :=
  match lookUp labelledComplaints name label with
  | some ending => label ++ ending
  | none =>
    match lookUp namedComplaints name label with
    | some ending => name ++ ending
    | none => (lookUp bareComplaints name label).getD (label ++ "() takes no arguments (1 given)")

def outcome (subject : Option Value) (label : String) : Outcome :=
  let parts := label.splitOn "."
  let (kind, name) := (parts.headD "", parts.getLastD "")
  if givesValue subject kind name label then .value .null else .raised (complaint name label)

end Operation

def plainOutcome? : Handler → Option Outcome
  | .operation label subject => some (Operation.outcome subject label)
  | .value v => some (.raised v.notCallable)
  | _ => none

end ActionRouting.Service
