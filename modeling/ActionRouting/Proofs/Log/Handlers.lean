import ActionRouting.Proofs.Log.Chain

/-! What services do to the loggers when they are made. A logger that gets a handler keeps its
records to itself from then on, so no record is written twice, in whatever order the services
come. -/
namespace ActionRouting.Log

structure Settings where
  level : Option Nat
  propagates : Bool
  sinks : List Sink
  deriving DecidableEq, Repr

def Settings.configured (s : Settings) (debug : Bool) : Settings where
  level := some (if debug then Level.debug.rank else Level.error.rank)
  propagates := false
  sinks := s.sinks ++ [.formatted]

/-- What is set at a logger, its name and its link apart. -/
def Logger.settings (l : Logger) : Settings := ⟨l.level, l.propagates, l.sinks⟩

def Logger.configured (debug : Bool) (l : Logger) : Logger :=
  let s := l.settings.configured debug
  { l with level := s.level, propagates := s.propagates, sinks := s.sinks }

namespace Registry

variable {r : Registry} {c : Construction} {cs : List Construction} {m n : String}

section Modify

variable {change : Logger → Logger} (hname : ∀ l, (change l).name = l.name)
include hname

lemma name_changed (n : String) (l : Logger) :
    (if l.name == n then change l else l).name = l.name := by
  split
  · exact hname l
  · rfl

lemma names_modify (r : Registry) (n : String) : (r.modify n change).names = (r.ask n).names := by
  rw [modify]
  split
  · next hn => rw [ask, if_pos (by simp [hn]), names, names]
  · simp only [names, List.map_map, Function.comp_def, name_changed hname]

/-- A change that leaves the link of a logger leaves all links. -/
lemma IsLinked.modify (h : r.IsLinked) (habove : ∀ l, (change l).above = l.above) (n : String) :
    (r.modify n change).IsLinked := by
  have hask := h.ask n
  have hnames := names_modify hname r n
  refine ⟨?_, hnames ▸ hask.nodup, hnames ▸ hask.not_isRoot, ?_⟩
  · rw [Registry.modify]
    split
    · exact (hname r.root).trans h.root
    · exact hask.root
  · rw [hnames, Registry.modify]
    split
    · next hn =>
      rw [Registry.ask, if_pos (by simp [hn])]
      exact h.above
    · intro l hl
      obtain ⟨l₀, hl₀, rfl⟩ := List.mem_map.mp hl
      have habove₀ := hask.above l₀ hl₀
      split
      · rw [habove, hname, habove₀]
      · exact habove₀

end Modify

@[simp] lemma settings_configured (debug : Bool) (l : Logger) :
    (l.configured debug).settings = l.settings.configured debug := rfl

end Registry

end ActionRouting.Log
