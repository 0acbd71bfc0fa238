import Mathlib.Data.List.Induction
import Mathlib.Tactic.ByContra
import ActionRouting.Proofs.Router.History

/-! What the tables hold, read off the log of registrations: which sources in which order, and for
each source and verb an entry that was registered, derived from `GET`, or left as a fallback. -/
namespace ActionRouting

/-- Of a list that repeats one thing, one is left. -/
lemma eraseDups_of_forall_eq {α : Type} [BEq α] [LawfulBEq α] {a : α} {l : List α} (hne : l ≠ [])
    (h : ∀ b ∈ l, b = a) : l.eraseDups = [a] := by
  obtain ⟨b, l, rfl⟩ := List.exists_cons_of_ne_nil hne
  obtain rfl := h b List.mem_cons_self
  rw [List.eraseDups_cons, List.filter_eq_nil_iff.mpr, List.eraseDups_nil]
  intro b' hb'
  simp [h b' (List.mem_cons_of_mem _ hb')]

namespace Registration

def source (g : Registration) : String := g.pattern.source

def isFor (v : Verb) (s : String) (g : Registration) : Bool := g.verb = v && g.source = s

end Registration

namespace Log

/-- The sources of a log in the order of their first registration, each once. -/
def sources (log : List Registration) : List String := (log.map Registration.source).eraseDups

def latest? (log : List Registration) (v : Verb) (s : String) : Option Registration :=
  log.reverse.find? (Registration.isFor v s)

def Has (log : List Registration) (v : Verb) (s : String) : Prop :=
  ∃ g ∈ log, g.verb = v ∧ g.source = s

/-- The registration that a derived entry for `HEAD` comes from: the first for `GET`. -/
def derivation? (log : List Registration) (v : Verb) (s : String) : Option Registration :=
  if v = .head then log.find? (Registration.isFor .get s) else none

def entryOf (config : RouterConfig) (log : List Registration) (v : Verb) (s : String) :
    Option RouteEntry :=
  match latest? log v s, derivation? log v s with
  | some g, _ => some (g.entry v .explicit)
  | none, some g => some (g.entry .head .implicit)
  | none, none => (log.find? (·.source = s)).map fun g => .fallback config g.pattern v

variable (config : RouterConfig) (log : List Registration) (g : Registration) (v : Verb)
  (s : String)

lemma latest?_concat : latest? (log ++ [g]) v s =
    if g.verb = v ∧ g.source = s then some g else latest? log v s := by
  by_cases h : g.verb = v ∧ g.source = s
  · simp [latest?, Registration.isFor, h]
  · have hg : Registration.isFor v s g = false := by simpa [Registration.isFor] using h
    rw [if_neg h, latest?, List.reverse_concat, List.find?_cons_of_neg (by simp [hg]), latest?]

lemma derivation?_concat : derivation? (log ++ [g]) v s =
    (derivation? log v s).or
      (if v = .head ∧ g.verb = .get ∧ g.source = s then some g else none) := by
  by_cases h : v = .head <;> simp [derivation?, Registration.isFor, h, List.find?_append]

lemma latest?_isSome : (latest? log v s).isSome ↔ Has log v s := by
  simp [latest?, Has, Registration.isFor]

lemma derivation?_isSome : (derivation? log v s).isSome ↔ v = .head ∧ Has log .get s := by
  by_cases h : v = .head <;> simp [derivation?, Has, Registration.isFor, h]

lemma mem_sources : s ∈ sources log ↔ ∃ g ∈ log, g.source = s := by
  simp [sources, List.mem_eraseDups]

lemma sources_concat : sources (log ++ [g]) =
    if g.source ∈ sources log then sources log else sources log ++ [g.source] := by
  have hr : ([g.source].removeAll (log.map Registration.source)) =
      if g.source ∈ sources log then [] else [g.source] := by
    by_cases h : g.source ∈ log.map Registration.source <;>
      simp_all [List.removeAll, sources, List.mem_eraseDups]
  rw [sources, List.map_append, List.eraseDups_append, List.map_singleton, hr]
  split <;> simp [sources, List.eraseDups_cons]

lemma nodup_sources : (sources log).Nodup := by
  induction log using List.reverseRecOn with
  | nil => exact List.nodup_nil
  | append_singleton log g ih =>
    rw [sources_concat]
    split
    · exact ih
    · next h =>
      refine List.nodup_append.mpr ⟨ih, by simp, ?_⟩
      intro a ha b hb he
      exact h (List.mem_singleton.mp hb ▸ he ▸ ha)

/-- What a registration makes of the entry of its source. -/
lemma entryOf_concat_self : entryOf config (log ++ [g]) v g.source =
    if v = g.verb then some (g.entry v .explicit)
    else
      match entryOf config log v g.source with
      | some e =>
        if v = .head ∧ g.verb = .get ∧ e.kind = .fallback then some (g.entry .head .implicit)
        else some e
      | none =>
        if v = .head ∧ g.verb = .get then some (g.entry .head .implicit)
        else some (.fallback config g.pattern v) := by
  by_cases hv : v = g.verb
  · simp [entryOf, latest?_concat, hv]
  · have hl : latest? (log ++ [g]) v g.source = latest? log v g.source := by
      rw [latest?_concat, if_neg fun h => hv h.1.symm]
    rw [if_neg hv, entryOf, entryOf, hl, derivation?_concat]
    cases latest? log v g.source with
    | some g' => simp [Registration.entry]
    | none =>
      cases derivation? log v g.source with
      | some g' => simp [Registration.entry]
      | none =>
        by_cases hd : v = .head ∧ g.verb = .get
        · cases log.find? (·.source = g.source) <;> simp [hd, RouteEntry.fallback]
        · have hd' (p : Prop) : ¬ (v = .head ∧ g.verb = .get ∧ p) := fun h => hd ⟨h.1, h.2.1⟩
          simp only [if_neg hd, if_neg (hd' _), Option.or_none, List.find?_append]
          cases log.find? (·.source = g.source) <;> simp

/-- A registration does not change the entries of other sources. -/
lemma entryOf_concat_of_ne {s : String} (h : g.source ≠ s) :
    entryOf config (log ++ [g]) v s = entryOf config log v s := by
  simp [entryOf, latest?_concat, derivation?_concat, h, List.find?_append]

/-- What a log tells of the entry for a verb and a source. -/
structure Describes (e : RouteEntry) : Prop where
  verb_eq : e.verb = v
  source_eq : e.pattern.source = s
  pattern_mem : ∃ g ∈ log, e.pattern = g.pattern
  explicit_iff : e.kind = .explicit ↔ Has log v s
  latest_eq : ∀ g, latest? log v s = some g → e = g.entry v .explicit
  implicit_iff : e.kind = .implicit ↔ v = .head ∧ ¬ Has log .head s ∧ Has log .get s
  fallback_eq : e.kind = .fallback → e.target = .config config ∧
    e.action = methodNotAllowedAction ∧ e.handler = config.methodNotAllowed

lemma find?_isFor {l : List Registration} {g : Registration} {v : Verb} {s : String}
    (h : l.find? (Registration.isFor v s) = some g) : g.verb = v ∧ g.source = s := by
  simpa [Registration.isFor] using List.find?_some h

/-- Every source of a log has an entry for every verb, and the log describes it. -/
theorem describes_entryOf {s : String} (hs : s ∈ sources log) :
    ∃ e, entryOf config log v s = some e ∧ Describes config log v s e := by
  have hl := latest?_isSome log v s
  have hd := derivation?_isSome log v s
  simp only [entryOf]
  cases hlatest : latest? log v s with
  | some g =>
    obtain ⟨hv, hg⟩ := find?_isFor hlatest
    have hh : Has log v s := hl.mp (by simp [hlatest])
    refine ⟨_, rfl, rfl, hg, ⟨g, by simpa using List.mem_of_find?_eq_some hlatest, rfl⟩,
      by simp [Registration.entry, hh], ?_, ?_, ?_⟩
    · intro g' h'
      rw [Option.some.inj (hlatest.symm.trans h')]
    · simp only [Registration.entry, reduceCtorEq, false_iff]
      rintro ⟨rfl, hn, -⟩
      exact hn hh
    · simp [Registration.entry]
  | none =>
    have hn : ¬ Has log v s := fun h => by simpa [hlatest] using hl.mpr h
    have hlate (e : RouteEntry) (g : Registration) (h : latest? log v s = some g) :
        e = g.entry v .explicit := by
      rw [hlatest] at h
      cases h
    cases hderived : derivation? log v s with
    | some g =>
      obtain ⟨rfl, hget⟩ := hd.mp (by simp [hderived])
      have hg : log.find? (Registration.isFor .get s) = some g := by
        simpa [derivation?] using hderived
      refine ⟨_, rfl, rfl, (find?_isFor hg).2, ⟨g, List.mem_of_find?_eq_some hg, rfl⟩, ?_,
        hlate _, ?_, ?_⟩
      · simp [Registration.entry, hn]
      · simp [Registration.entry, hn, hget]
      · simp [Registration.entry]
    | none =>
      obtain ⟨f, hf⟩ : ∃ f, log.find? (·.source = s) = some f := by
        obtain ⟨g, hg, hgs⟩ := (mem_sources log s).mp hs
        exact Option.isSome_iff_exists.mp (List.find?_isSome.mpr ⟨g, hg, by simpa using hgs⟩)
      have hfs : f.source = s := by simpa using List.find?_some hf
      refine ⟨.fallback config f.pattern v, by simp [hf], rfl, hfs,
        ⟨f, List.mem_of_find?_eq_some hf, rfl⟩, ?_, hlate _, ?_, ?_⟩
      · simp [RouteEntry.fallback, hn]
      · simp only [RouteEntry.fallback, reduceCtorEq, false_iff]
        rintro ⟨rfl, -, hget⟩
        simpa [hderived] using hd.mpr ⟨rfl, hget⟩
      · exact fun _ => ⟨rfl, rfl, rfl⟩

end Log

namespace Table

variable (config : RouterConfig) (g : Registration) (v : Verb) (t : Table)

lemma add_eq : t.add config g v =
    if v = g.verb then OrderedMap.insert g.source (g.entry v .explicit) t
    else
      match OrderedMap.get? g.source t with
      | some e =>
        if v = .head ∧ g.verb = .get ∧ e.kind = .fallback then
          OrderedMap.insert g.source (g.entry .head .implicit) t
        else t
      | none =>
        if v = .head ∧ g.verb = .get then
          OrderedMap.insert g.source (g.entry .head .implicit) t
        else OrderedMap.insert g.source (.fallback config g.pattern v) t := rfl

/-- A registration puts its source behind the others, unless the table has it. -/
lemma keys_add : OrderedMap.keys (t.add config g v) =
    if g.source ∈ OrderedMap.keys t then OrderedMap.keys t
    else OrderedMap.keys t ++ [g.source] := by
  have hi (e : RouteEntry) := OrderedMap.keys_insert g.source e t
  have hn : OrderedMap.get? g.source t = none ↔ g.source ∉ OrderedMap.keys t :=
    OrderedMap.get?_eq_none_iff
  rw [add_eq]
  split
  · exact hi _
  · cases hg : OrderedMap.get? g.source t with
    | none =>
      simp only
      split <;> exact hi _
    | some e =>
      have hm : g.source ∈ OrderedMap.keys t := by
        by_contra hm
        rw [hn.mpr hm] at hg
        cases hg
      have hk := hi (g.entry .head .implicit)
      rw [if_pos hm] at hk ⊢
      simp only
      split
      · exact hk
      · rfl

/-- A registration concerns no other source. -/
lemma get?_add_of_ne {s : String} (h : g.source ≠ s) :
    OrderedMap.get? s (t.add config g v) = OrderedMap.get? s t := by
  have hi (e : RouteEntry) := OrderedMap.get?_insert_of_ne h e t
  rw [add_eq]
  split
  · exact hi _
  · split
    · split
      · exact hi _
      · rfl
    · split <;> exact hi _

/-- The entry of a source after a registration of that source. -/
lemma get?_add_self : OrderedMap.get? g.source (t.add config g v) =
    if v = g.verb then some (g.entry v .explicit)
    else
      match OrderedMap.get? g.source t with
      | some e =>
        if v = .head ∧ g.verb = .get ∧ e.kind = .fallback then some (g.entry .head .implicit)
        else some e
      | none =>
        if v = .head ∧ g.verb = .get then some (g.entry .head .implicit)
        else some (.fallback config g.pattern v) := by
  rw [add_eq]
  split
  · simp
  · cases hg : OrderedMap.get? g.source t with
    | none => simp only; split <;> simp
    | some e => simp only; split <;> simp [hg]

end Table

namespace Router

/-- Every table has the sources of the log, in the order of their first registration. -/
theorem keys_replay (config : RouterConfig) (log : List Registration) (v : Verb) :
    OrderedMap.keys ((replay config log).table v) = Log.sources log := by
  induction log using List.reverseRecOn with
  | nil => simp [OrderedMap.keys, Log.sources]
  | append_singleton log g ih =>
    rw [replay_concat, table_add, Table.keys_add, ih, Log.sources_concat]

/-- Every entry is the one that the log leaves. -/
theorem entry?_replay (config : RouterConfig) (log : List Registration) (v : Verb) (s : String) :
    Router.entry? (replay config log) v s = Log.entryOf config log v s := by
  induction log using List.reverseRecOn with
  | nil => simp [Router.entry?, OrderedMap.get?, Log.entryOf, Log.latest?, Log.derivation?]
  | append_singleton log g ih =>
    simp only [Router.entry?] at ih
    simp only [Router.entry?, replay_concat, table_add, config_replay]
    by_cases hs : g.source = s
    · subst hs
      rw [Table.get?_add_self, ih, Log.entryOf_concat_self]
    · rw [Table.get?_add_of_ne _ _ _ _ hs, ih, Log.entryOf_concat_of_ne _ _ _ _ hs]

end Router

namespace History

variable {h : History}

/-- Every table lists the sources of the log. -/
lemma Faithful.keys_table (hf : h.Faithful) (v : Verb) :
    OrderedMap.keys (h.router.table v) = Log.sources h.log := by
  rw [hf, Router.keys_replay]

lemma Faithful.nodup_keys (hf : h.Faithful) (v : Verb) :
    (OrderedMap.keys (h.router.table v)).Nodup := by
  rw [hf.keys_table]
  exact Log.nodup_sources h.log

lemma Faithful.entry?_eq (hf : h.Faithful) (v : Verb) (s : String) :
    h.router.entry? v s = Log.entryOf h.router.config h.log v s := by
  rw [hf, Router.entry?_replay, Router.config_replay]

/-- Every source has an entry for every verb, and the log describes it. -/
lemma Faithful.describes (hf : h.Faithful) : ∀ s ∈ Log.sources h.log, ∀ v, ∃ e,
    h.router.entry? v s = some e ∧ Log.Describes h.router.config h.log v s e := by
  intro s hs v
  rw [hf.entry?_eq]
  exact Log.describes_entryOf _ _ _ hs

/-- Every source was registered for some verb. -/
lemma Faithful.exists_explicit (hf : h.Faithful) : ∀ s ∈ Log.sources h.log, ∃ v e,
    h.router.entry? v s = some e ∧ e.kind = .explicit := by
  intro s hs
  obtain ⟨g, hg, hgs⟩ := (Log.mem_sources _ _).mp hs
  obtain ⟨e, he, hd⟩ := hf.describes s hs g.verb
  exact ⟨g.verb, e, he, hd.explicit_iff.mpr ⟨g, hg, rfl, hgs⟩⟩

/-- After any calls the tables are what the log tells: all of them list the sources of the log in
the order of their first registration, each once; every source has an entry for every verb, which
the log describes; and every source was registered for some verb. -/
theorem tables_refine_log (config : RouterConfig) (calls : List Call) :
    let h := run config calls
    (∀ v, OrderedMap.keys (h.router.table v) = Log.sources h.log) ∧
    (Log.sources h.log).Nodup ∧
    (∀ s ∈ Log.sources h.log, ∀ v, ∃ e, h.router.entry? v s = some e ∧
      Log.Describes h.router.config h.log v s e) ∧
    ∀ s ∈ Log.sources h.log, ∃ v e, h.router.entry? v s = some e ∧ e.kind = .explicit := by
  intro h
  have hf : h.Faithful := faithful_run config calls
  exact ⟨hf.keys_table, Log.nodup_sources h.log, hf.describes, hf.exists_explicit⟩

end History

end ActionRouting
