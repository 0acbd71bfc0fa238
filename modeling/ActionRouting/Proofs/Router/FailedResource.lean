import ActionRouting.Proofs.Router.OneMoreRoute
import ActionRouting.Proofs.Router.SoleRoute

/-! A resource that fails midway. Its rows are registered one after another, and none is taken back:
those before the row that fails stay, as if each had been a route by itself. So the router is as
before only if it had all of them already. -/
namespace ActionRouting

namespace OrderedMap

variable {β : Type}

/-- Two maps with the same keys and the same values are one. -/
lemma ext_get? {m n : OrderedMap β} (hk : keys m = keys n) (hn : (keys m).Nodup)
    (h : ∀ key ∈ keys m, get? key m = get? key n) : m = n := by
  induction m generalizing n with
  | nil => exact (List.map_eq_nil_iff.mp hk.symm).symm
  | cons p m ih =>
    cases n with
    | nil => cases hk
    | cons q n =>
      obtain ⟨hkey, hkeys⟩ := List.cons.inj hk
      obtain ⟨hp, hm⟩ := List.nodup_cons.mp hn
      have hvalue := h p.1 List.mem_cons_self
      rw [get?, get?, if_pos rfl, if_pos hkey.symm] at hvalue
      have hrest : m = n := by
        refine ih hkeys hm fun key hmem => ?_
        have hne : ¬ p.1 = key := by
          rintro rfl
          exact hp hmem
        have hne' : ¬ q.1 = key := fun he => hne (hkey.trans he)
        have := h key (List.mem_cons_of_mem _ hmem)
        rwa [get?, get?, if_neg hne, if_neg hne'] at this
      rw [hrest, Prod.ext hkey (Option.some.inj hvalue)]

end OrderedMap

namespace Log

variable {config : RouterConfig} {log gs : List Registration} {v : Verb} {s : String}

lemma latest?_append : latest? (log ++ gs) v s = (latest? gs v s).or (latest? log v s) := by
  rw [latest?, List.reverse_append, List.find?_append]
  rfl

/-- The registrations that a log has already, just as they are. -/
def HasAll (config : RouterConfig) (log gs : List Registration) : Prop :=
  ∀ v s g, latest? gs v s = some g → entryOf config log v s = some (g.entry v .explicit)

lemma mem_sources_of_entryOf {e : RouteEntry} (h : entryOf config log v s = some e) :
    s ∈ sources log := by
  by_contra hs
  have hnone : ∀ g ∈ log, g.source ≠ s := fun g hg he => hs ((mem_sources log s).mpr ⟨g, hg, he⟩)
  rw [← Router.entry?_replay, Router.entry?, OrderedMap.get?_eq_none_iff.mpr] at h
  · cases h
  · rwa [Router.keys_replay]

lemma HasAll.has (h : HasAll config log gs) (hg : Has gs v s) : Has log v s := by
  obtain ⟨g, hlatest⟩ := Option.isSome_iff_exists.mp ((latest?_isSome gs v s).mpr hg)
  have hentry := h v s g hlatest
  obtain ⟨e, he, hd⟩ := describes_entryOf config log v (mem_sources_of_entryOf hentry)
  obtain rfl := Option.some.inj (hentry.symm.trans he)
  exact hd.explicit_iff.mp rfl

lemma HasAll.mem_sources (h : HasAll config log gs) {g : Registration} (hg : g ∈ gs) :
    g.source ∈ sources log := by
  obtain ⟨g', hg', -, hs⟩ := h.has ⟨g, hg, rfl, rfl⟩
  exact (Log.mem_sources log _).mpr ⟨g', hg', hs⟩

/-- Registrations that a log has already add no source. -/
lemma HasAll.sources_append (h : HasAll config log gs) : sources (log ++ gs) = sources log := by
  have hnone : (gs.map Registration.source).removeAll (log.map Registration.source) = [] := by
    refine List.filter_eq_nil_iff.mpr fun s hs => ?_
    obtain ⟨g, hg, rfl⟩ := List.mem_map.mp hs
    have hmem := h.mem_sources hg
    rw [sources, List.mem_eraseDups] at hmem
    simp [hmem]
  rw [sources, List.map_append, List.eraseDups_append, hnone, List.eraseDups_nil, List.append_nil,
    sources]

/-- What is found in a log with registrations behind it is found in the log, if it has any. -/
lemma find?_append_of_has {p : Registration → Bool} (h : ∀ g ∈ gs, p g → ∃ g ∈ log, p g) :
    (log ++ gs).find? p = log.find? p := by
  rw [List.find?_append]
  cases hl : log.find? p with
  | some g => rfl
  | none =>
    refine List.find?_eq_none.mpr fun g hg hp => ?_
    obtain ⟨g', hg', hp'⟩ := h g hg hp
    exact List.find?_eq_none.mp hl g' hg' hp'

/-- Registrations that a log has already leave its entries. -/
lemma HasAll.entryOf_append (h : HasAll config log gs) :
    entryOf config (log ++ gs) v s = entryOf config log v s := by
  cases hg : latest? gs v s with
  | some g =>
    rw [h v s g hg, entryOf, latest?_append, hg]
    rfl
  | none =>
    have hlatest : latest? (log ++ gs) v s = latest? log v s := by rw [latest?_append, hg]; rfl
    have hderived : derivation? (log ++ gs) v s = derivation? log v s := by
      unfold derivation?
      split
      · refine find?_append_of_has fun g hg hp => ?_
        obtain ⟨g', hg', hfor⟩ := h.has ⟨g, hg, by simpa [Registration.isFor] using hp⟩
        exact ⟨g', hg', by simpa [Registration.isFor] using hfor⟩
      · rfl
    have hfirst : (log ++ gs).find? (·.source = s) = log.find? (·.source = s) := by
      refine find?_append_of_has fun g hg hp => ?_
      obtain ⟨g', hg', hs⟩ := (Log.mem_sources log _).mp (h.mem_sources hg)
      exact ⟨g', hg', by simpa [hs] using hp⟩
    rw [entryOf, entryOf, hlatest, hderived, hfirst]

end Log

namespace Router

/-- Two routers with the same configuration and the same tables are one. -/
lemma ext_tables {r r' : Router} (hc : r.config = r'.config) (h : ∀ v, r.table v = r'.table v) :
    r = r' := by
  obtain ⟨config, routes⟩ := r
  obtain ⟨config', routes'⟩ := r'
  have hroutes : routes = routes' := by
    cases routes
    cases routes'
    rw [PerVerb.mk.injEq]
    exact ⟨h .get, h .head, h .post, h .put, h .delete, h .trace, h .options, h .connect, h .patch⟩
  rw [hroutes, show config = config' from hc]

end Router

namespace History

variable {h : History} {gs : List Registration}

def more (h : History) (gs : List Registration) : History :=
  ⟨gs.foldl Router.add h.router, h.log ++ gs⟩

lemma Faithful.more (hf : h.Faithful) (gs : List Registration) : (h.more gs).Faithful := by
  rw [Faithful, History.more, Router.config_foldl_add, Router.replay, List.foldl_append]
  exact congrArg (List.foldl Router.add · gs) hf

/-- More registrations leave a router as it was if and only if it had all of them already. -/
theorem Faithful.add_eq_self_iff (hf : h.Faithful) : gs.foldl Router.add h.router = h.router ↔
    Log.HasAll h.router.config h.log gs := by
  have hf' := hf.more gs
  have hconfig : (h.more gs).router.config = h.router.config := Router.config_foldl_add _ _
  constructor
  · intro he v s g hg
    have hentry := hf'.entry?_eq v s
    rw [hconfig, show (h.more gs).router = h.router from he, hf.entry?_eq] at hentry
    rw [hentry, show (h.more gs).log = h.log ++ gs from rfl, Log.entryOf, Log.latest?_append, hg]
    rfl
  · intro hall
    refine Router.ext_tables hconfig fun v => ?_
    have hkeys : OrderedMap.keys ((h.more gs).router.table v) =
        OrderedMap.keys (h.router.table v) := by
      rw [hf'.keys_table, hf.keys_table]
      exact hall.sources_append
    refine OrderedMap.ext_get? hkeys (hf'.nodup_keys v) fun s _ => ?_
    have hentry := hf'.entry?_eq v s
    rw [hconfig] at hentry
    exact (hentry.trans hall.entryOf_append).trans (hf.entry?_eq v s).symm

end History

namespace Router

variable {r r' : Router} {target : Target} {rows : List ResourceRow} {gs : List Registration}
  {p : Progress} {e : Fault}

/-- Rows are registered one after another. A row whose action the target lacks is passed over, and
any other is a route of its own. -/
inductive Registers (target : Target) :
    Router → List ResourceRow → List Registration → Router → Prop
  | done {r : Router} : Registers target r [] [] r
  | skip {r r' : Router} {row : ResourceRow} {rows : List ResourceRow} {gs : List Registration}
      {action : Value} : r.config.resourceAction row.key = .ok action →
      readAction target action = .ok none → Registers target r rows gs r' →
      Registers target r (row :: rows) gs r'
  | route {r r' : Router} {row : ResourceRow} {rows : List ResourceRow} {g : Registration}
      {gs : List Registration} {action : Value} {handler : Handler} :
      r.config.resourceAction row.key = .ok action →
      readAction target action = .ok (some handler) →
      r.prepare row.path target action (.text row.verb.name) = .ok g →
      Registers target (r.add g) rows gs r' → Registers target r (row :: rows) (g :: gs) r'

/-- A row fails: no action is known for it, its action is no name, or its route fails. -/
inductive Fails (r : Router) (target : Target) (row : ResourceRow) (e : Fault) : Prop
  | key : r.config.resourceAction row.key = .error e → Fails r target row e
  | action {action : Value} : r.config.resourceAction row.key = .ok action →
      readAction target action = .error e → Fails r target row e
  | route {action : Value} {handler : Handler} : r.config.resourceAction row.key = .ok action →
      readAction target action = .ok (some handler) →
      r.route row.path target action (.text row.verb.name) = .error e → Fails r target row e

/-- The rows of a collection or of a single resource, and how far a call comes with them. -/
inductive Binds (r : Router) (target : Target) : List ResourceRow → Progress → Prop
  | collection (mount ident : Value) :
      Binds r target (collectionRows mount ident) (r.resources mount target ident)
  | single (mount : Value) : Binds r target (singularRows mount) (r.resource mount target)

lemma Binds.eq_addRows (h : r.Binds target rows p) : p = addRows target { router := r } rows := by
  cases h <;> rfl

lemma Registers.router_eq (h : Registers target r rows gs r') : r' = gs.foldl add r := by
  induction h with
  | done => rfl
  | skip _ _ _ ih => exact ih
  | route _ _ _ _ ih => exact ih

lemma fails_of_prepareRow {row : ResourceRow} (h : r.prepareRow target row = .error e) :
    r.Fails target row e := by
  simp only [prepareRow, bind, Except.bind] at h
  cases ha : r.config.resourceAction row.key with
  | error e' =>
    rw [ha] at h
    cases h
    exact .key ha
  | ok action =>
    simp only [ha] at h
    cases hh : readAction target action with
    | error e' =>
      rw [hh] at h
      cases h
      exact .action ha hh
    | ok found =>
      cases found with
      | none =>
        rw [hh] at h
        cases h
      | some handler =>
        refine .route ha hh ?_
        simp only [hh] at h
        cases hp : r.prepare row.path target action (.text row.verb.name) with
        | error e' =>
          rw [hp] at h
          cases h
          rw [route, hp]
          rfl
        | ok g =>
          rw [hp] at h
          cases h

/-- A row that does not fail is one more that is registered, with its route or without one. -/
lemma Registers.cons {row : ResourceRow} {made : Option Registration}
    (hrow : r.prepareRow target row = .ok made)
    (h : Registers target (made.elim r r.add) rows gs r') :
    Registers target r (row :: rows) (made.toList ++ gs) r' := by
  simp only [prepareRow, bind, Except.bind] at hrow
  cases ha : r.config.resourceAction row.key with
  | error e => simp [ha] at hrow
  | ok action =>
    simp only [ha] at hrow
    cases hh : readAction target action with
    | error e => simp [hh] at hrow
    | ok found =>
      cases found with
      | none =>
        rw [hh] at hrow
        cases hrow
        exact .skip ha hh h
      | some handler =>
        simp only [hh] at hrow
        cases hp : r.prepare row.path target action (.text row.verb.name) with
        | error e => simp [hp] at hrow
        | ok g =>
          rw [hp] at hrow
          cases hrow
          exact .route ha hh hp h

/-- A series of rows that fails stops at one of them, with the rows before it registered. -/
theorem registers_of_fault (hp : p.fault = none) (he : (addRows target p rows).fault = some e) :
    ∃ done row later gs, rows = done ++ row :: later ∧
      Registers target p.router done gs (addRows target p rows).router ∧
      Fails (addRows target p rows).router target row e ∧
      (addRows target p rows).notices = p.notices ++ gs.map Registration.notice := by
  induction rows generalizing p with
  | nil => cases hp.symm.trans he
  | cons row rows ih =>
    rw [addRows] at he ⊢
    cases hrow : p.router.prepareRow target row with
    | error e' =>
      rw [hrow] at he
      cases he
      exact ⟨[], row, rows, [], rfl, .done, fails_of_prepareRow hrow, (List.append_nil _).symm⟩
    | ok made =>
      cases made with
      | none =>
        rw [hrow] at he
        obtain ⟨done, row', later, gs, rfl, hregisters, hfails, hnotices⟩ := ih hp he
        exact ⟨row :: done, row', later, gs, rfl, .cons hrow hregisters, hfails, hnotices⟩
      | some g =>
        rw [hrow] at he
        let next : Progress :=
          { p with router := p.router.add g, notices := p.notices ++ [g.notice] }
        obtain ⟨done, row', later, gs, rfl, hregisters, hfails, hnotices⟩ := ih (p := next) hp he
        refine ⟨row :: done, row', later, g :: gs, rfl, .cons hrow hregisters, hfails, ?_⟩
        exact hnotices.trans (List.append_cons _ _ _).symm

lemma entry?_foldl_add_of_ne {v : Verb} {s : String} (h : ∀ g ∈ gs, g.source ≠ s) :
    Router.entry? (gs.foldl add r) v s = r.entry? v s := by
  induction gs generalizing r with
  | nil => rfl
  | cons g gs ih =>
    obtain ⟨hg, hgs⟩ := List.forall_mem_cons.mp h
    rw [List.foldl_cons, ih hgs, entry?_add_of_ne hg]

end Router

namespace History

open Router

/-- A resource that fails, after any calls, stops at one of its rows. The rows before that one stay
registered, in order, each as a route by itself, and nothing else changes: neither the configuration
nor the entries of other sources. So the router is as it was before the call if and only if it had
these routes already, just as they are. -/
theorem resource_fails (config : RouterConfig) (calls : List Call) {target : Target}
    {rows : List ResourceRow} {p : Progress} {e : Fault}
    (hp : (run config calls).router.Binds target rows p) (he : p.fault = some e) :
    ∃ done row later gs, rows = done ++ row :: later ∧
      Registers target (run config calls).router done gs p.router ∧ p.router.Fails target row e ∧
      p.notices = gs.map Registration.notice ∧
      p.router.config = (run config calls).router.config ∧
      (∀ v s, (∀ g ∈ gs, g.source ≠ s) →
        p.router.entry? v s = Router.entry? (run config calls).router v s) ∧
      (p.router = (run config calls).router ↔
        ∀ v s g, Log.latest? gs v s = some g →
          Router.entry? (run config calls).router v s = some (g.entry v .explicit)) := by
  have hf := faithful_run config calls
  obtain ⟨done, row, later, gs, hrows, hregisters, hfails, hnotices⟩ :=
    registers_of_fault rfl (hp.eq_addRows ▸ he)
  rw [← hp.eq_addRows] at hregisters hfails hnotices
  have hrouter := hregisters.router_eq
  refine ⟨done, row, later, gs, hrows, hregisters, hfails, hnotices, ?_, fun v s hs => ?_, ?_⟩
  · rw [hrouter, config_foldl_add]
  · rw [hrouter, entry?_foldl_add_of_ne hs]
  · rw [hrouter]
    simp only [hf.entry?_eq]
    exact hf.add_eq_self_iff

/-- The list of a collection stays when the path of its items is none. -/
theorem resource_fails_paren : ∃ p e g, (run {} []).router.Binds pages
      (collectionRows (.text "/x") (.text "(")) p ∧ p.fault = some e ∧
    p.notices = [Registration.notice g] ∧ p.router = (run {} []).router.add g ∧
    p.router ≠ (run {} []).router := by
  have hfails : ((run {} []).router.resources (.text "/x") pages (.text "(")).fault.isSome := by
    decide +kernel
  have hone : ((run {} []).router.resources (.text "/x") pages (.text "(")).notices.length = 1 := by
    decide +kernel
  obtain ⟨e, he⟩ := Option.isSome_iff_exists.mp hfails
  obtain ⟨done, row, later, gs, -, hregisters, -, hnotices, -, -, hsame⟩ :=
    resource_fails {} [] (.collection (.text "/x") (.text "(")) he
  rw [hnotices, List.length_map, List.length_eq_one_iff] at hone
  obtain ⟨g, rfl⟩ := hone
  refine ⟨_, e, g, .collection _ _, he, hnotices, hregisters.router_eq, fun hr => ?_⟩
  have hlatest : Log.latest? [g] g.verb g.source = some g := by
    simp [Log.latest?, Registration.isFor]
  -- A router without routes has no entry at all.
  have hempty : Router.entry? (run {} []).router g.verb g.source = none := by
    rw [Router.entry?, show (run {} []).router.table g.verb = [] from Router.table_replay_nil _ _]
    rfl
  cases hempty.symm.trans (hsame.mp hr _ _ _ hlatest)

/-- A collection whose items have no path leaves its list behind. -/
theorem not_resource_unchanged : ¬ ∀ (config : RouterConfig) (calls : List Call)
    (mount : Value) (target : Target) (ident : Value) (e : Fault),
      ((run config calls).router.resources mount target ident).fault = some e →
      ((run config calls).router.resources mount target ident).router =
        (run config calls).router := by
  intro hall
  have hfails : ((run {} []).router.resources (.text "/x") pages (.text "(")).fault.isSome := by
    decide +kernel
  have hlisted : Option.isSome <|
      Router.entry? ((run {} []).router.resources (.text "/x") pages (.text "(")).router .get
        "^/x/?$" := by
    decide +kernel
  obtain ⟨e, he⟩ := Option.isSome_iff_exists.mp hfails
  rw [hall _ _ _ _ _ e he] at hlisted
  cases hlisted

end History

end ActionRouting
