import Mathlib.Tactic.Lemma
import ActionRouting.Router.Resources

/-! The life of a router. Calls register and flush routes; beside the router a history keeps the
registrations that were completed since the last flush. The tables are the replay of that log. -/
namespace ActionRouting

/-- A call that changes the routes of a router. -/
inductive Call
  | route (spec : PathSpec) (target : Target) (action verb : Value)
  | resources (mount : Value) (target : Target) (ident : Value)
  | resource (mount : Value) (target : Target)
  | reset
  | configure (o : Options)

namespace Router

/-- The router after a call. A route or a configuration that fails changes nothing; a resource keeps
the rows that came before the one that failed. -/
def after (r : Router) : Call → Router
  | .route spec target action verb => (r.route spec target action verb).toOption.getD r
  | .resources mount target ident => (r.resources mount target ident).router
  | .resource mount target => (r.resource mount target).router
  | .reset => r.reset
  | .configure o => (r.configure o).toOption.getD r

def flushes (r : Router) : Call → Bool
  | .reset => true
  | .configure o => (r.configure o).toOption.isSome
  | _ => false

/-- The registrations that rows of a resource complete, up to the first row that fails. -/
def completed (r : Router) (target : Target) : List ResourceRow → List Registration
  | [] => []
  | row :: rows =>
    match r.prepareRow target row with
    | .error _ => []
    | .ok none => completed r target rows
    | .ok (some g) => g :: completed r target rows

/-- The registrations that a call completes, in order. -/
def registrations (r : Router) : Call → List Registration
  | .route spec target action verb => (r.prepare spec target action verb).toOption.toList
  | .resources mount target ident => r.completed target (collectionRows mount ident)
  | .resource mount target => r.completed target (singularRows mount)
  | .reset => []
  | .configure _ => []

/-- The router that a configuration and a log of registrations give. -/
def replay (config : RouterConfig) (log : List Registration) : Router :=
  log.foldl add { config }

@[simp] theorem config_add (r : Router) (g : Registration) : (r.add g).config = r.config := rfl

@[simp] theorem table_add (r : Router) (g : Registration) (v : Verb) :
    (r.add g).table v = (r.table v).add r.config g v := by simp [table, add]

@[simp] theorem config_foldl_add (r : Router) (log : List Registration) :
    (log.foldl add r).config = r.config := by
  induction log generalizing r with
  | nil => rfl
  | cons g log ih => rw [List.foldl_cons, ih, config_add]

@[simp] theorem config_replay (config : RouterConfig) (log : List Registration) :
    (replay config log).config = config := config_foldl_add _ log

@[simp] theorem table_replay_nil (config : RouterConfig) (v : Verb) :
    (replay config []).table v = [] := by simp [replay, table]

@[simp] theorem replay_concat (config : RouterConfig) (log : List Registration)
    (g : Registration) : replay config (log ++ [g]) = (replay config log).add g := by
  simp [replay]

/-- Whether a route can be registered depends on the configuration alone. -/
lemma prepare_congr {r r' : Router} (h : r.config = r'.config) (spec : PathSpec) (target : Target)
    (action verb : Value) :
    r.prepare spec target action verb = r'.prepare spec target action verb := by
  simp only [prepare, compile, h]

lemma prepareRow_congr {r r' : Router} (h : r.config = r'.config) (target : Target)
    (row : ResourceRow) : r.prepareRow target row = r'.prepareRow target row := by
  simp only [prepareRow, prepare_congr h, h]

lemma completed_congr {r r' : Router} (h : r.config = r'.config) (target : Target)
    (rows : List ResourceRow) : r.completed target rows = r'.completed target rows := by
  induction rows with
  | nil => rfl
  | cons row rows ih => simp only [completed, prepareRow_congr h, ih]

/-- Registering rows adds what they complete. -/
lemma router_addRows (target : Target) (p : Progress) (rows : List ResourceRow) :
    (addRows target p rows).router = (p.router.completed target rows).foldl add p.router := by
  induction rows generalizing p with
  | nil => rfl
  | cons row rows ih =>
    rw [addRows, completed]
    cases p.router.prepareRow target row with
    | error e => rfl
    | ok made =>
      cases made with
      | none => exact ih p
      | some g =>
        simp only [List.foldl_cons]
        rw [ih]
        have hc := completed_congr (config_add p.router g) target rows
        exact congrArg (List.foldl add (p.router.add g)) hc

/-- The checks of a registration: a verb, an action that the target has, and a path that
compiles. -/
lemma prepare_eq_ok {r : Router} {spec : PathSpec} {target : Target} {action verb : Value}
    {g : Registration} (h : r.prepare spec target action verb = .ok g) :
    readVerb verb = .ok g.verb ∧ g.target = target ∧
      action.orElse (.text "show") = .text g.action ∧ target.handler? g.action = some g.handler ∧
      r.compile spec = .ok g.pattern := by
  simp only [prepare, bind, Except.bind] at h
  cases hv : readVerb verb with
  | error e => simp [hv] at h
  | ok v =>
    cases ha : action.orElse (.text "show") with
    | text name =>
      cases hh : target.handler? name with
      | none => simp [hv, ha, readAction, hh] at h
      | some handler =>
        cases hc : r.compile spec with
        | error e => simp [hv, ha, readAction, hh, hc] at h
        | ok p =>
          simp only [hv, ha, readAction, hh, hc, pure, Except.pure, Except.ok.injEq] at h
          subst h
          exact ⟨rfl, rfl, rfl, hh, rfl⟩
    | _ => simp [hv, ha, readAction] at h

/-- A route is registered once its registration is prepared. -/
lemma route_eq_ok {r r' : Router} {spec : PathSpec} {target : Target} {action verb : Value}
    (h : r.route spec target action verb = .ok r') :
    ∃ g, r.prepare spec target action verb = .ok g ∧ r' = r.add g := by
  simp only [route, bind, Except.bind] at h
  cases hp : r.prepare spec target action verb with
  | error e => simp [hp] at h
  | ok g =>
    rw [hp] at h
    cases h
    exact ⟨g, rfl, rfl⟩

lemma prepareRow_eq_ok {r : Router} {target : Target} {row : ResourceRow} {g : Registration}
    (h : r.prepareRow target row = .ok (some g)) :
    ∃ action, r.prepare row.path target action (.text row.verb.name) = .ok g := by
  simp only [prepareRow, bind, Except.bind] at h
  cases ha : r.config.resourceAction row.key with
  | error e => simp [ha] at h
  | ok action =>
    cases hh : readAction target action with
    | error e => simp [ha, hh] at h
    | ok found =>
      cases found with
      | none => simp [ha, hh, pure, Except.pure] at h
      | some handler =>
        cases hp : r.prepare row.path target action (.text row.verb.name) with
        | error e => simp [ha, hh, hp] at h
        | ok g' =>
          simp only [ha, hh, hp, pure, Except.pure, Except.ok.injEq, Option.some.injEq] at h
          exact ⟨action, h ▸ hp⟩

lemma mem_completed {r : Router} {target : Target} {rows : List ResourceRow} {g : Registration}
    (h : g ∈ r.completed target rows) :
    ∃ row ∈ rows, ∃ action, r.prepare row.path target action (.text row.verb.name) = .ok g := by
  induction rows with
  | nil => cases h
  | cons row rows ih =>
    rw [completed] at h
    cases hr : r.prepareRow target row with
    | error e => simp [hr] at h
    | ok made =>
      cases made with
      | none =>
        obtain ⟨row', hm, ha⟩ := ih (by simpa [hr] using h)
        exact ⟨row', List.mem_cons_of_mem _ hm, ha⟩
      | some g' =>
        rw [hr] at h
        rcases List.mem_cons.mp h with rfl | h
        · exact ⟨row, List.mem_cons_self, prepareRow_eq_ok hr⟩
        · obtain ⟨row', hm, ha⟩ := ih h
          exact ⟨row', List.mem_cons_of_mem _ hm, ha⟩

/-- A registration passed the checks of a router. -/
def Accepts (r : Router) (g : Registration) : Prop :=
  ∃ spec target action verb, r.prepare spec target action verb = .ok g

theorem accepts_of_mem_registrations {r : Router} {c : Call} {g : Registration}
    (h : g ∈ r.registrations c) : r.Accepts g := by
  cases c with
  | route spec target action verb =>
    refine ⟨spec, target, action, verb, ?_⟩
    cases hp : r.prepare spec target action verb <;> simp_all [registrations, Except.toOption]
  | resources mount target ident =>
    obtain ⟨row, -, action, hp⟩ := mem_completed h
    exact ⟨_, _, _, _, hp⟩
  | resource mount target =>
    obtain ⟨row, -, action, hp⟩ := mem_completed h
    exact ⟨_, _, _, _, hp⟩
  | reset => cases h
  | configure o => cases h

lemma Accepts.congr {r r' : Router} {g : Registration} (ha : r.Accepts g)
    (h : r'.config = r.config) : r'.Accepts g := by
  obtain ⟨spec, target, action, verb, hp⟩ := ha
  exact ⟨spec, target, action, verb, (prepare_congr h ..).trans hp⟩

/-- A call that flushes nothing adds the registrations that it completes. -/
theorem after_of_not_flushes (r : Router) (c : Call) (h : r.flushes c = false) :
    r.after c = (r.registrations c).foldl add r := by
  cases c with
  | route spec target action verb =>
    simp only [after, registrations, route, bind, Except.bind]
    cases r.prepare spec target action verb <;> rfl
  | resources mount target ident => exact router_addRows target { router := r } _
  | resource mount target => exact router_addRows target { router := r } _
  | reset => cases h
  | configure o =>
    simp only [flushes] at h
    simp only [after, registrations, List.foldl_nil]
    cases hc : r.configure o with
    | error e => rfl
    | ok r' => simp [hc, Except.toOption] at h

/-- A call that flushes leaves a router without routes. -/
theorem after_of_flushes (r : Router) (c : Call) (h : r.flushes c = true) :
    r.after c = replay (r.after c).config [] := by
  cases c with
  | reset => rfl
  | configure o =>
    simp only [flushes, configure, bind, Except.bind] at h
    simp only [after, configure, bind, Except.bind]
    cases hc : r.config.replace o with
    | error e => simp [hc, Except.toOption] at h
    | ok config => rfl
  | _ => cases h

end Router

/-- A router with the log of the registrations completed since its tables were last empty. -/
structure History where
  router : Router
  log : List Registration

namespace History

def start (config : RouterConfig) : History := ⟨{ config }, []⟩

def step (h : History) (c : Call) : History :=
  ⟨h.router.after c, if h.router.flushes c then [] else h.log ++ h.router.registrations c⟩

def run (config : RouterConfig) (calls : List Call) : History := calls.foldl step (start config)

/-- The tables are the replay of the log. -/
def Faithful (h : History) : Prop := h.router = .replay h.router.config h.log

theorem faithful_start (config : RouterConfig) : (start config).Faithful := rfl

theorem Faithful.step {h : History} (hf : h.Faithful) (c : Call) : (h.step c).Faithful := by
  cases hc : h.router.flushes c with
  | true =>
    simp only [Faithful, History.step, hc, if_true]
    exact h.router.after_of_flushes c hc
  | false =>
    have ha := h.router.after_of_not_flushes c hc
    have hr : (h.router.after c).config = h.router.config := by
      rw [ha, Router.config_foldl_add]
    simp only [Faithful, History.step, hc, hr]
    rw [ha, if_neg Bool.false_ne_true, Router.replay, List.foldl_append]
    exact congrArg (List.foldl Router.add · _) hf

/-- After any calls the router is the replay of what was registered since the last flush. -/
theorem faithful_run (config : RouterConfig) (calls : List Call) :
    (run config calls).Faithful := by
  suffices ∀ h : History, h.Faithful → (calls.foldl History.step h).Faithful from
    this _ (faithful_start config)
  induction calls with
  | nil => exact fun h hf => hf
  | cons c calls ih => exact fun h hf => ih _ (hf.step c)

/-- Every logged registration passed the checks of the current configuration. -/
def Checked (h : History) : Prop := ∀ g ∈ h.log, h.router.Accepts g

theorem Checked.step {h : History} (hc : h.Checked) (c : Call) : (h.step c).Checked := by
  intro g hg
  cases hf : h.router.flushes c with
  | true => simp [History.step, hf] at hg
  | false =>
    have hr : (h.step c).router.config = h.router.config := by
      simp only [History.step, h.router.after_of_not_flushes c hf, Router.config_foldl_add]
    simp only [History.step, hf, Bool.false_eq_true, if_false, List.mem_append] at hg
    rcases hg with hg | hg
    · exact (hc g hg).congr hr
    · exact (Router.accepts_of_mem_registrations hg).congr hr

theorem checked_run (config : RouterConfig) (calls : List Call) : (run config calls).Checked := by
  suffices ∀ h : History, h.Checked → (calls.foldl History.step h).Checked from
    this _ (by simp [start, Checked])
  induction calls with
  | nil => exact fun h hc => hc
  | cons c calls ih => exact fun h hc => ih _ (hc.step c)

end History

end ActionRouting
