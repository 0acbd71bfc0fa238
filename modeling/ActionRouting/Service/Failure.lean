import ActionRouting.Service.Message
import ActionRouting.Value.Complaint

/-! The text of a failure, by its kind and its arguments. Some kinds tell their arguments in a
sentence of their own, and some take only arguments of a certain shape: given others, they tell that
instead. -/
namespace ActionRouting.Service.Failure

/-- The kinds that end the whole program. -/
def haltingKinds : List String :=
  ["BaseException", "GeneratorExit", "KeyboardInterrupt", "SystemExit"]

/-- The kinds whose arguments are a number, a reason and perhaps files. -/
def systemKinds : List String :=
  ["OSError", "IOError", "EnvironmentError", "FileNotFoundError", "FileExistsError",
    "PermissionError", "NotADirectoryError", "IsADirectoryError", "TimeoutError",
    "ConnectionError", "ConnectionResetError", "ConnectionRefusedError", "ConnectionAbortedError",
    "BrokenPipeError", "InterruptedError", "BlockingIOError", "ChildProcessError",
    "ProcessLookupError"]

/-- The kinds whose arguments are a message and a place in a source. -/
def sourceKinds : List String := ["IndentationError", "SyntaxError", "TabError"]

/-- The text of most failures: nothing, the one argument, or all of them as a tuple. -/
def plainText : List Value → String
  | [] => ""
  | [arg] => arg.display
  | args => (Value.tuple args).literal

def fitsWord (i : Int) : Bool := -Nat.pow 2 63 ≤ i && i < Nat.pow 2 63

/-- A system failure tells of an operation that would block. The general kinds go by their
number. -/
def isBlocking (kind : String) (number : Value) : Bool :=
  kind == "BlockingIOError" ||
    ["OSError", "IOError", "EnvironmentError"].contains kind &&
      match number with
      | .int i => [11, 114, 115].contains i
      | _ => false

/-- How the files of a system failure end its text. -/
def filesText : List Value → String
  | [] => ""
  | .null :: _ => ""
  | file :: rest =>
    ": " ++ file.literal ++
      match rest with
      | [_, .null] => ""
      | [_, other] => " -> " ++ other.literal
      | _ => ""

/-- The text of a system failure. Where an operation would block, a number in place of a file is the
count of characters written, and is not told. -/
def systemText (kind : String) (args : List Value) : String :=
  match args with
  | number :: reason :: files =>
    if files.length > 3 then plainText args
    else
      let told := "[Errno " ++ number.display ++ "] " ++ reason.display
      match isBlocking kind number, files with
      | true, .bool _ :: _ => told
      | true, .int i :: _ =>
        if fitsWord i then told else "cannot fit 'int' into an index-sized integer"
      | true, .float _ :: _ => "'float' object cannot be interpreted as an integer"
      | _, files => told ++ filesText files
  | args => plainText args

def fileName (path : String) : String := (path.splitOn "/").getLastD ""

/-- A message with the place that it is about, as far as that is known. -/
def placedText (message file line : Value) : String :=
  let line := match line with
    | .int i => some ("line " ++ toString (if fitsWord i then i else -1))
    | _ => none
  let place := (file.asText?.map fileName).toList ++ line.toList
  message.display ++ (if place = [] then "" else " (" ++ ", ".intercalate place ++ ")")

def countText (bound : String) (count given : Nat) : String :=
  "function takes " ++ bound ++ " " ++ toString count ++ " arguments (" ++
    toString given ++ " given)"

def sourceText : List Value → String
  | [] => "None"
  | [message, place] =>
    match place.items with
    | .error _ => place.notIterable
    | .ok (file :: line :: more) =>
      let count := more.length + 2
      if count < 4 then countText "at least" 4 count
      else if count > 6 then countText "at most" 6 count
      else if count = 5 then "end_offset must be provided when end_lineno is provided"
      else placedText message file line
    | .ok few => countText "at least" 4 few.length
  | message :: _ => message.display

/-- A text argument, or the complaint that it is none. -/
def textArgument (position : Nat) : Value → Except String String
  | .text s => .ok s
  | v =>
    .error ("argument " ++ toString position ++ " must be str, not " ++
      if v.isNull then "None" else v.kindName)

/-- An argument that is a position, or the complaint that it is none. -/
def positionArgument : Value → Except String Int
  | .bool b => .ok (if b then 1 else 0)
  | .int i => if fitsWord i then .ok i else .error "Python int too large to convert to C ssize_t"
  | v => .error ("'" ++ v.kindName ++ "' object cannot be interpreted as an integer")

/-- What could not be coded: the one unit in a range, or all of it. -/
def rangeText (verb one many : String) (units : List String) (start stop : Int) : String :=
  match units[start.toNat]?, decide (0 ≤ start ∧ stop = start + 1) with
  | some unit, true => verb ++ " " ++ one ++ " " ++ unit ++ " in position " ++ toString start
  | _, _ => verb ++ " " ++ many ++ " in position " ++ toString start ++ "-" ++ toString (stop - 1)

def byteUnit (b : UInt8) : String := "0x" ++ String.ofList (Text.Quoted.hexDigits 2 b.toNat)

def charUnit (c : Char) : String :=
  let n := c.toNat
  let escape := if n < 0x100 then 'x' :: Text.Quoted.hexDigits 2 n
    else if n < 0x10000 then 'u' :: Text.Quoted.hexDigits 4 n
    else 'U' :: Text.Quoted.hexDigits 8 n
  String.ofList ('\'' :: '\\' :: escape ++ ['\''])

def decodeText : List Value → Except String String
  | [encoding, object, start, stop, reason] => do
    let encoding ← textArgument 1 encoding
    let start ← positionArgument start
    let stop ← positionArgument stop
    let reason ← textArgument 5 reason
    let .bytes bytes := object
      | .error ("a bytes-like object is required, not '" ++ object.kindName ++ "'")
    .ok ("'" ++ encoding ++ "' codec can't " ++
      rangeText "decode" "byte" "bytes" (bytes.map byteUnit) start stop ++ ": " ++ reason)
  | args => .error (countText "exactly" 5 args.length)

def encodeText : List Value → Except String String
  | [encoding, object, start, stop, reason] => do
    let encoding ← textArgument 1 encoding
    let object ← textArgument 2 object
    let start ← positionArgument start
    let stop ← positionArgument stop
    let reason ← textArgument 5 reason
    .ok ("'" ++ encoding ++ "' codec can't " ++
      rangeText "encode" "character" "characters" (object.toList.map charUnit) start stop ++
      ": " ++ reason)
  | args => .error (countText "exactly" 5 args.length)

def translateText : List Value → Except String String
  | [object, start, stop, reason] => do
    let object ← textArgument 1 object
    let start ← positionArgument start
    let stop ← positionArgument stop
    let reason ← textArgument 4 reason
    .ok ("can't " ++
      rangeText "translate" "character" "characters" (object.toList.map charUnit) start stop ++
      ": " ++ reason)
  | args => .error (countText "exactly" 4 args.length)

/-- The text that a computation of a text or of a complaint comes to. -/
def either : Except String String → String
  | .ok text => text
  | .error complaint => complaint

/-- The complaint of a group of failures. No value is a failure, so no value can be in a group. -/
def groupText : List Value → String
  | [message, members] =>
    match textArgument 1 message with
    | .error complaint => "BaseExceptionGroup.__new__() " ++ complaint
    | .ok _ =>
      match members, members.items with
      | .mapping _, _ | _, .error _ => "second argument (exceptions) must be a sequence"
      | _, .ok [] => "second argument (exceptions) must be a non-empty sequence"
      | _, .ok _ => "Item 0 of second argument (exceptions) is not an exception"
  | args =>
    "BaseExceptionGroup.__new__() takes exactly 2 arguments (" ++ toString args.length ++ " given)"

def text (kind : String) (args : List Value) : String :=
  if systemKinds.contains kind then systemText kind args
  else if sourceKinds.contains kind then sourceText args
  else
    match kind, args with
    | "KeyError", [key] => key.literal
    | "UnicodeDecodeError", args => either (decodeText args)
    | "UnicodeEncodeError", args => either (encodeText args)
    | "UnicodeTranslateError", args => either (translateText args)
    | "ExceptionGroup", args => groupText args
    | "BaseExceptionGroup", args => groupText args
    | _, args => plainText args

end ActionRouting.Service.Failure
