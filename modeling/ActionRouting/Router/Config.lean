import ActionRouting.Value.Access
import ActionRouting.Value.Methods

/-! Router configuration. An option keeps the value it was given; only whether that counts as true
matters for matching. -/
namespace ActionRouting

/-- What answers a request: the action of a controller, a handler known by a label, an operation of
a plain value or of no value in particular, or a value that cannot be called at all. -/
inductive Handler
  | action (controller name : String)
  | labelled (label : String)
  | operation (label : String) (subject : Option Value)
  | value (v : Value)

namespace Handler

def label : Handler → String
  | action controller name => controller ++ "." ++ name
  | labelled label => label
  | operation label _ => label
  | value v => v.literal

def isCallable : Handler → Bool
  | value _ => false
  | _ => true

/-- The handler counts as none. -/
def isEmpty : Handler → Bool
  | value v => !v.truthy
  | _ => false

end Handler

/-- The rows of a resource that a controller may serve, each with the action it is named for. -/
def resourceKeys : List String := ["list", "new", "create", "show", "edit", "update", "destroy"]

/-- The actions of a resource before any is renamed: each row its own. -/
def defaultResourceActions : OrderedMap Value := resourceKeys.map fun key => (key, .text key)

/-- The options of a router. `methodNotAllowed` answers when a path exists, but not for the verb; it
is kept as it was given. -/
structure RouterConfig where
  caseSensitive : Value := .bool false
  strictSlashes : Value := .bool false
  methodNotAllowed : Option Handler := none
  resourceActions : Value := .mapping defaultResourceActions

/-- Options as they are given: those that are known, and the others by name. -/
structure Options where
  caseSensitive : Option Value := none
  strictSlashes : Option Value := none
  methodNotAllowed : Option (Option Handler) := none
  resourceActions : Option Value := none
  unknown : OrderedMap Value := []

namespace Options

/-- The names that are given, in alphabetical order. -/
def names (o : Options) : List String :=
  ((if o.caseSensitive.isSome then ["case_sensitive"] else []) ++
    (if o.methodNotAllowed.isSome then ["method_not_allowed"] else []) ++
    (if o.resourceActions.isSome then ["resource_actions"] else []) ++
    (if o.strictSlashes.isSome then ["strict_slashes"] else []) ++
    OrderedMap.keys o.unknown).mergeSort (fun a b => !decide (b < a))

def has (o : Options) (name : String) : Bool := (OrderedMap.get? name o.unknown).isSome

/-- The options without the unknown ones of some names. -/
def without (o : Options) (names : List String) : Options :=
  { o with unknown := o.unknown.filter fun p => !names.contains p.1 }

end Options

namespace RouterConfig

def literal (c : RouterConfig) : String :=
  "RouterConfig(case_sensitive=" ++ c.caseSensitive.literal ++
    ", strict_slashes=" ++ c.strictSlashes.literal ++
    ", method_not_allowed=" ++ (c.methodNotAllowed.elim "None" Handler.label) ++
    ", resource_actions=" ++ c.resourceActions.literal ++ ")"

def operations : List String :=
  ["__delattr__", "__eq__", "__hash__", "__init__", "__repr__", "__setattr__", "replace"]

def operationLabel? (name : String) : Option String :=
  if name = "__class__" then some "RouterConfig"
  else if name = "__new__" then some "object.__new__"
  else if operations.contains name || Value.commonOperations.contains name then
    some ("RouterConfig." ++ name)
  else if (Value.specialOperations "object").contains name then some ("object." ++ name)
  else none

/-- A configuration with the given options set, other than the names of resource actions. -/
def withOptions (c : RouterConfig) (o : Options) : RouterConfig :=
  { c with
    caseSensitive := o.caseSensitive.getD c.caseSensitive
    strictSlashes := o.strictSlashes.getD c.strictSlashes
    methodNotAllowed := o.methodNotAllowed.getD c.methodNotAllowed }

def ofOptions (o : Options) : Result RouterConfig :=
  if o.unknown ≠ [] then .error .wrongType
  else .ok { ({} : RouterConfig).withOptions o with
    resourceActions := o.resourceActions.getD (.mapping defaultResourceActions) }

/-- The keys among `keys` that no resource has, in alphabetical order. -/
def unknownKeys (keys : List Value) : Result (List String) :=
  let unknown := keys.filter fun key => !resourceKeys.any fun k => key.equal (.text k)
  match unknown.mapM Value.asText? with
  | some texts => .ok (dedup (texts.mergeSort fun a b => !decide (b < a)))
  | none => .error .wrongType
where
  /-- Sorted texts, each once. -/
  dedup : List String → List String
    | a :: b :: rest => if a = b then dedup (b :: rest) else a :: dedup (b :: rest)
    | rest => rest

/-- A copy with options applied. The given names of resource actions replace those of the same rows,
unless they are empty. No option may be called `self`, and that is seen first. -/
def replace (c : RouterConfig) (o : Options) : Result RouterConfig := do
  if o.has "self" then throw .wrongType
  let overrides := (o.resourceActions.getD .null).orElse (.mapping [])
  let keys ← overrides.items
  if !Value.areKeys keys then throw .wrongType
  let unknown ← unknownKeys keys
  if unknown ≠ [] then throw (.unknownResourceActions unknown)
  let current ← c.resourceActions.toShownMapping
  let .mapping fields := overrides | throw .noSuchMethod
  if o.unknown ≠ [] then throw .wrongType
  let actions := OrderedMap.insertAll (fields.filter (·.2.truthy)) current
  return { c.withOptions o with resourceActions := .mapping actions }

/-- The handler that answers when a path exists, but not for the verb, unless it counts as none. -/
def refusal? (c : RouterConfig) : Option Handler := c.methodNotAllowed.filter (!·.isEmpty)

def resourceAction (c : RouterConfig) (key : String) : Result Value := c.resourceActions.index key

end RouterConfig

end ActionRouting
