import ActionRouting.Proofs.Log.Handlers

/-! What services write. A record is written once if the logger it is given to, or one that it
reaches, was configured by a service, and not at all otherwise. -/
namespace ActionRouting.Log.Registry

variable {r : Registry} {cs : List Construction} {m n : String} {l : Logger} {ls : List Logger}

/-- A record reaches no logger but those above. -/
lemma Reaches.isAbove {order : List String} (h : Reaches order n m) :
    isRoot m = true ∨ m = n ∨ IsAbove m n := by
  refine h.imp_right fun hlinks => ?_
  obtain ⟨-, hlinks⟩ := hlinks
  clear h
  induction hlinks with
  | refl => exact .inl rfl
  | tail _ hlink ih =>
    right
    rcases ih with rfl | habove
    · exact hlink.isAbove
    · exact hlink.isAbove.trans habove

end ActionRouting.Log.Registry
