/-! Loggers by dotted name. A logger comes to be when it is first asked for, and is then linked to
the nearest one above it. One without a level has that of the nearest one above it that has one, and
a logger hands its records to the handlers above unless it is told not to. -/
namespace ActionRouting.Log

/-- How urgent a record is. -/
inductive Level
  | debug
  | info
  | warning
  | error
  | critical
  deriving DecidableEq, Repr

namespace Level

def rank : Level → Nat
  | debug => 10
  | info => 20
  | warning => 30
  | error => 40
  | critical => 50

def name : Level → String
  | debug => "DEBUG"
  | info => "INFO"
  | warning => "WARNING"
  | error => "ERROR"
  | critical => "CRITICAL"

end Level

/-- Where a handler writes: to standard output in the format of services or as the bare message, to
some other stream, or nowhere. -/
inductive Sink
  | formatted
  | bare
  | elsewhere
  | nowhere
  deriving DecidableEq, Repr

namespace Sink

/-- The handler writes to standard output. -/
def isStandard : Sink → Bool
  | formatted => true
  | bare => true
  | _ => false

def line (logger : String) (level : Level) (message : String) : Sink → String
  | formatted => "[" ++ logger ++ "] - [" ++ level.name ++ "] - " ++ message ++ "\n"
  | bare => message ++ "\n"
  | _ => ""

end Sink

/-- A logger. Above it stands the logger of the name `above`, or the root. -/
structure Logger where
  name : String
  above : Option String := none
  level : Option Nat := none
  propagates : Bool := true
  sinks : List Sink := []
  deriving DecidableEq, Repr

/-- The loggers that were asked for, the root apart. -/
structure Registry where
  root : Logger := { name := "root", level := some 30 }
  loggers : List Logger := []
  deriving Repr

namespace Registry

/-- The last dot before a position. -/
def dotBefore? (name : List Char) (limit : Nat) : Option Nat :=
  (List.range limit).reverse.find? fun i => name[i]? == some '.'

/-- The names above a name: what comes before its dots, from the last to the first. No name is
empty, and of two dots in a row the first is passed over. -/
def dottedAbove (name : List Char) : Nat → Nat → List String
  | 0, _ => []
  | fuel + 1, limit =>
    match dotBefore? name limit with
    | some (i + 1) => String.ofList (name.take (i + 1)) :: dottedAbove name fuel i
    | _ => []

/-- The names above a name, the longest first. -/
def namesAbove (name : String) : List String := dottedAbove name.toList name.length name.length

def isRoot (name : String) : Bool := name == "" || name == "root"

def logger? (r : Registry) (name : String) : Option Logger := r.loggers.find? (·.name == name)

/-- The logger of a name, as new if it was not asked for yet. -/
def logger (r : Registry) (name : String) : Logger :=
  if isRoot name then r.root else (r.logger? name).getD { name }

/-- What becomes of a logger when one of another name is made. If its own name lies below that name,
and the name of the logger above it does not begin with it, it is linked to the new one. The root is
called by its name here like any other, so a logger `ro` takes over no logger that the root was
above of. -/
def relink (name : String) (l : Logger) : Logger :=
  if (namesAbove l.name).contains name && !(l.above.getD "root").startsWith name then
    { l with above := some name }
  else l

/-- The registry once a logger was asked for. -/
def ask (r : Registry) (name : String) : Registry :=
  if isRoot name || (r.logger? name).isSome then r
  else
    let above := (namesAbove name).find? fun n => (r.logger? n).isSome
    { r with loggers := r.loggers.map (relink name) ++ [{ name, above }] }

def modify (r : Registry) (name : String) (change : Logger → Logger) : Registry :=
  if isRoot name then { r with root := change r.root }
  else
    let r := r.ask name
    { r with loggers := r.loggers.map fun l => if l.name == name then change l else l }

/-- The loggers from one upwards, the root last. Each name above is shorter, so the length of the
name bounds their number. -/
def chainFrom (r : Registry) : Nat → Logger → List Logger
  | 0, l => [l, r.root]
  | fuel + 1, l =>
    match l.above.bind r.logger? with
    | some above => l :: r.chainFrom fuel above
    | none => [l, r.root]

/-- A logger and those above it, the root last. -/
def chain (r : Registry) (name : String) : List Logger :=
  if isRoot name then [r.root] else r.chainFrom name.length ((r.ask name).logger name)

def effectiveLevel (r : Registry) (name : String) : Nat :=
  ((r.chain name).findSome? (·.level)).getD 0

/-- The part of a chain that a record reaches. -/
def reached : List Logger → List Logger
  | [] => []
  | l :: rest => if l.propagates then l :: reached rest else [l]

/-- What standard output receives from a record. -/
def output (r : Registry) (name : String) (level : Level) (message : String) : String :=
  if level.rank < r.effectiveLevel name then ""
  else String.join (((reached (r.chain name)).flatMap (·.sinks)).map
    (·.line (r.logger name).name level message))

def addSink (r : Registry) (name : String) (sink : Sink) : Registry :=
  r.modify name fun l => { l with sinks := l.sinks ++ [sink] }

/-- The logger writes to standard output already. -/
def isConfigured (r : Registry) (name : String) : Bool := (r.logger name).sinks.any Sink.isStandard

/-- Makes a logger write to standard output, unless it does. From then on it keeps its records to
itself, and takes errors alone or, for debugging, all. -/
def configure (r : Registry) (name : String) (debug : Bool) : Registry :=
  if r.isConfigured name then r
  else
    r.modify name fun l => { l with
      propagates := false
      level := some (if debug then Level.debug.rank else Level.error.rank)
      sinks := l.sinks ++ [.formatted] }

end Registry

end ActionRouting.Log
