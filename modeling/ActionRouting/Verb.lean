/-! The request verbs, and families with one member for each verb. -/
namespace ActionRouting

inductive Verb
  | get
  | head
  | post
  | put
  | delete
  | trace
  | options
  | connect
  | patch
  deriving DecidableEq, Repr

namespace Verb

/-- Every verb, in the order in which they are listed everywhere. -/
def all : List Verb := [get, head, post, put, delete, trace, options, connect, patch]

def name : Verb → String
  | get => "GET"
  | head => "HEAD"
  | post => "POST"
  | put => "PUT"
  | delete => "DELETE"
  | trace => "TRACE"
  | options => "OPTIONS"
  | connect => "CONNECT"
  | patch => "PATCH"

def ofName? (s : String) : Option Verb := all.find? (·.name == s)

theorem mem_all (v : Verb) : v ∈ all := by cases v <;> simp [all]

end Verb

structure PerVerb (α : Type) where
  get : α
  head : α
  post : α
  put : α
  delete : α
  trace : α
  options : α
  connect : α
  patch : α

namespace PerVerb

variable {α : Type}

def ofFn (f : Verb → α) : PerVerb α :=
  ⟨f .get, f .head, f .post, f .put, f .delete, f .trace, f .options, f .connect, f .patch⟩

def lookup (m : PerVerb α) : Verb → α
  | .get => m.get
  | .head => m.head
  | .post => m.post
  | .put => m.put
  | .delete => m.delete
  | .trace => m.trace
  | .options => m.options
  | .connect => m.connect
  | .patch => m.patch

@[simp] theorem lookup_ofFn (f : Verb → α) (v : Verb) : (ofFn f).lookup v = f v := by
  cases v <;> rfl

end PerVerb

end ActionRouting
