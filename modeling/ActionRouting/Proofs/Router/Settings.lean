import ActionRouting.Proofs.Router.FailedResource
import ActionRouting.Proofs.Value.Kinds

/-! What the configuration of a router is after any calls: of each option the last value that was
given, of each resource action the last name that was not empty, and the default where none was. A
change with a name that is not known is refused as a whole; one that is not refused takes the
routes. -/
namespace ActionRouting

namespace OrderedMap

variable {β : Type}

end OrderedMap

namespace Options

def overrides (o : Options) : List (String × Value) :=
  match o.resourceActions with
  | some (.mapping fields) => fields
  | _ => []

end Options

namespace RouterConfig

open Options

variable {c c' : RouterConfig} {o : Options} {current : OrderedMap Value}

def given (o : Options) : Value := (o.resourceActions.getD .null).orElse (.mapping [])

end RouterConfig

namespace Router

open RouterConfig

variable {r : Router} {o : Options} {done : List Options}

end Router

/-! ### What a row of a resource fails of -/

namespace Result

variable {α β : Type} {P : Fault → Prop} {x : Result α} {f : α → Result β} {a : α} {e : Fault}

/-- If a result is a failure, it is one of a kind. -/
def FailsOnly (P : Fault → Prop) (x : Result α) : Prop := ∀ e, x = .error e → P e

lemma FailsOnly.ok : FailsOnly P (.ok a) := nofun

lemma FailsOnly.error (h : P e) : FailsOnly P (.error e : Result α) := by
  rintro _ ⟨⟩
  exact h

lemma FailsOnly.bind (hx : FailsOnly P x) (hf : ∀ a, FailsOnly P (f a)) :
    FailsOnly P (x >>= f) := by
  cases x with
  | error e => exact .error (hx e rfl)
  | ok a => exact hf a

end Result

namespace Pattern

open Result

end Pattern

namespace Router

open Result RouterConfig

variable {r : Router} {target : Target} {rows : List ResourceRow} {p : Progress}

/-- The keys of the rows of resources. -/
lemma Binds.mem_resourceKeys (h : r.Binds target rows p) {row : ResourceRow} (hrow : row ∈ rows) :
    row.key ∈ resourceKeys := by
  suffices ∀ key ∈ rows.map (·.key), key ∈ resourceKeys from this _ (List.mem_map_of_mem hrow)
  cases h with
  | collection mount ident =>
    change ∀ key ∈ ["list", "create", "new", "show", "update", "update", "destroy", "edit"],
      key ∈ resourceKeys
    decide
  | single mount =>
    change ∀ key ∈ ["show", "create", "update", "update", "destroy", "new", "edit"],
      key ∈ resourceKeys
    decide

end Router

end ActionRouting
