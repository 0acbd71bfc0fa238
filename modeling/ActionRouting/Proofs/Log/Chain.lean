import ActionRouting.Proofs.Log.Links

/-! What a record passes on its way up. The way leads over the links, and ends at the root. From a
name without two dots in a row it leads over all names above that were asked for, save one: a
beginning of the name of the root that came after the one below it. -/
namespace ActionRouting.Log.Registry

variable {r : Registry} {order : List String} {m n a t : String} {l : Logger} {fuel : Nat}

def loggerName (n : String) : String := if isRoot n then "root" else n

lemma IsLinked.isAbove (h : r.IsLinked) (hl : l ∈ r.loggers) (ha : l.above = some m) :
    IsAbove m l.name := by
  rw [h.above l hl] at ha
  exact Links.isAbove ha

/-- A record of one logger goes by another: that is the root, or the links lead there. -/
def Reaches (order : List String) (n m : String) : Prop :=
  isRoot m = true ∨ isRoot n = false ∧ Relation.ReflTransGen (Links order) n m

end ActionRouting.Log.Registry
