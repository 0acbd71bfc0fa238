import Mathlib.Tactic.Lemma
import ActionRouting.Service.Api

/-! What a service remembers. It keeps the latest event and what was read of the latest that could
be read, but both are replaced before a handler is called. So no event bears on a later one. -/
namespace ActionRouting.Service.Api

/-- The service as it was made: with its router and its settings, and without any event. -/
def renewed (api : Api) : Api :=
  { router := api.router, debug := api.debug, https := api.https, nextHandler := api.nextHandler }

/-- The service after some events, each of which came with its context. -/
def after (api : Api) (answers : Answers) (events : List (Value × Value)) : Api :=
  events.foldl (fun api e => (api.handle answers e.1 e.2).api) api

variable (api : Api) (answers : Answers)

/-- A service that is made with a router and settings has no event yet. -/
lemma create_eq_ok (router : Router) (debug https : Bool) (next : Option Handler) :
    create { router, debug, https, nextHandler := some next } {} =
      .ok { router := .ok router, debug, https, nextHandler := next } := by
  have hnames : ({} : Options).names = [] := by simp [Options.names, OrderedMap.keys]
  simp [create, routerOf, setting, Options.has, Options.without, OrderedMap.get?, reservedNames,
    bind, Except.bind, pure, Except.pure, hnames]

/-- An answer leaves the service as it is. -/
lemma api_answer (config : RouterConfig) (request : Request) (d : Disposition) :
    (api.answer answers config request d).api = api := by cases d <;> rfl

lemma api_respond (request : Request) : (api.respond answers request).api = api := by
  unfold respond
  split
  · rfl
  · split
    · rfl
    · exact api_answer ..

/-- An event leaves the router and the settings as they are, whatever comes of it. -/
lemma renewed_handle (event context : Value) :
    (api.handle answers event context).api.renewed = api.renewed := by
  unfold handle
  dsimp only
  split
  · rfl
  · split
    · rfl
    · split
      · rfl
      · split
        · rfl
        · simp only [api_respond]
          rfl

/-- Events leave the router and the settings as they are. -/
theorem renewed_after (events : List (Value × Value)) :
    (api.after answers events).renewed = api.renewed := by
  induction events generalizing api with
  | nil => rfl
  | cons e events ih => exact (ih _).trans (renewed_handle api answers e.1 e.2)

/-- What comes of an event: the reply or the cause of failure, the calls made and the records
written. -/
def told (event context : Value) : Result Reply × List MadeCall × List Record :=
  let x := api.handle answers event context
  (x.reply, x.calls, x.records)

/-- What comes of an event does not depend on what is kept of an event before. -/
lemma told_renewed (event context : Value) :
    api.told answers event context = api.renewed.told answers event context := by
  unfold told handle
  dsimp only
  cases withLowerHeaders event with
  | error e => rfl
  | ok fields =>
    dsimp only
    cases Gateway.RequestPath.ofEvent (.mapping fields) with
    | error e => rfl
    | ok p =>
      dsimp only
      split
      · rfl
      · -- From here on both services keep the same event and the same path.
        cases requestOf p (.mapping fields) context <;> rfl

/-- A service that took any events before, whatever came of them, gives for an event what a service
gives that was made with the same router and settings and took none: the same reply or the same
cause of failure, the same calls of handlers and the same records. -/
theorem told_after_events (router : Router) (debug https : Bool) (next : Option Handler)
    (answers : Answers) : ∃ api,
    create { router, debug, https, nextHandler := some next } {} = .ok api ∧
      ∀ (earlier : List (Value × Value)) (event context : Value),
        (api.after answers earlier).told answers event context =
          api.told answers event context := by
  refine ⟨_, create_eq_ok router debug https next, fun earlier event context => ?_⟩
  rw [told_renewed, renewed_after]
  rfl

end ActionRouting.Service.Api
