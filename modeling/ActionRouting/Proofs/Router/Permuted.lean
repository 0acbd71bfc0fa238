import Mathlib.Data.List.Nodup
import ActionRouting.Proofs.Path.Matching
import ActionRouting.Proofs.Router.SharedSource

/-! Registrations in another order. Where no verb is registered twice for a source and no path is
matched by two sources, the order in which texts are registered does not show: the tables hold the
same entries, but for the paths of fallbacks, and one source at the most decides about a path. -/
namespace ActionRouting

/-- Two entries answer alike: they match the same paths under one source, came about in the same
way, and are one entry unless they are fallbacks. -/
structure RouteEntry.AnswersLike (e e' : RouteEntry) : Prop where
  matcher_eq : e.pattern.matcher = e'.pattern.matcher
  source_eq : e.pattern.source = e'.pattern.source
  kind_eq : e.kind = e'.kind
  eq_of_ne : e.kind ≠ .fallback → e = e'

theorem RouteEntry.AnswersLike.refl (e : RouteEntry) : e.AnswersLike e :=
  ⟨rfl, rfl, rfl, fun _ => rfl⟩

namespace Log

/-- No verb is registered twice for a source. -/
def Distinct (log : List Registration) : Prop := (log.map fun g => (g.verb, g.source)).Nodup

/-- No path is matched by the registrations of two sources. -/
def Separate (log : List Registration) : Prop :=
  ∀ g ∈ log, ∀ g' ∈ log, g.source ≠ g'.source → ∀ path, ¬ (g.Matches path ∧ g'.Matches path)

variable {log log' : List Registration} {v : Verb} {s : String} {g : Registration}

lemma Distinct.eq_of_isFor (hd : Distinct log) {g' : Registration} (hg : g ∈ log) (hg' : g' ∈ log)
    (h : Registration.isFor v s g) (h' : Registration.isFor v s g') : g = g' := by
  simp only [Registration.isFor, Bool.and_eq_true, decide_eq_true_eq] at h h'
  apply List.inj_on_of_nodup_map hd hg hg'
  rw [h.1, h.2, h'.1, h'.2]

lemma Distinct.perm (hd : Distinct log) (hp : log.Perm log') : Distinct log' :=
  (hp.map _).nodup_iff.mp hd

/-- Without repetitions, what is sought for a verb and a source is the one that is there. -/
lemma Distinct.find?_eq_some_iff (hd : Distinct log) :
    log.find? (Registration.isFor v s) = some g ↔ g ∈ log ∧ Registration.isFor v s g := by
  constructor
  · intro h
    exact ⟨List.mem_of_find?_eq_some h, List.find?_some h⟩
  · rintro ⟨hg, hfor⟩
    obtain ⟨g', hg'⟩ : ∃ g', log.find? (Registration.isFor v s) = some g' :=
      Option.isSome_iff_exists.mp (List.find?_isSome.mpr ⟨g, hg, hfor⟩)
    rw [hg', hd.eq_of_isFor (List.mem_of_find?_eq_some hg') hg (List.find?_some hg') hfor]

lemma Distinct.find?_perm (hd : Distinct log) (hp : log.Perm log') (v : Verb) (s : String) :
    log.find? (Registration.isFor v s) = log'.find? (Registration.isFor v s) := by
  ext g
  rw [hd.find?_eq_some_iff, (hd.perm hp).find?_eq_some_iff, hp.mem_iff]

lemma Distinct.latest?_perm (hd : Distinct log) (hp : log.Perm log') (v : Verb) (s : String) :
    latest? log v s = latest? log' v s := by
  have hr : log.reverse.Perm log'.reverse :=
    (List.reverse_perm log).trans (hp.trans (List.reverse_perm log').symm)
  exact (hd.perm (List.reverse_perm log).symm).find?_perm hr v s

lemma Distinct.derivation?_perm (hd : Distinct log) (hp : log.Perm log') (v : Verb) (s : String) :
    derivation? log v s = derivation? log' v s := by
  rw [derivation?, derivation?, hd.find?_perm hp]

/-- The entries that a log leaves answer alike in whatever order it is. -/
theorem Distinct.entryOf_perm {config : RouterConfig} (hd : Distinct log) (hp : log.Perm log')
    (hm : OneMatcher log) {e : RouteEntry} (he : entryOf config log v s = some e) :
    ∃ e', entryOf config log' v s = some e' ∧ e.AnswersLike e' := by
  rw [entryOf] at he ⊢
  rw [← hd.latest?_perm hp, ← hd.derivation?_perm hp]
  cases hl : latest? log v s with
  | some g =>
    rw [hl] at he
    exact ⟨e, he, .refl e⟩
  | none =>
    cases hder : derivation? log v s with
    | some g =>
      rw [hl, hder] at he
      exact ⟨e, he, .refl e⟩
    | none =>
      rw [hl, hder] at he
      -- Both are fallbacks, each with the path of the first registration in its order.
      obtain ⟨f, hf, rfl⟩ := Option.map_eq_some_iff.mp he
      have hfs : f.source = s := by simpa using List.find?_some hf
      have hmem := List.mem_of_find?_eq_some hf
      obtain ⟨f', hf'⟩ : ∃ f', log'.find? (·.source = s) = some f' :=
        Option.isSome_iff_exists.mp
          (List.find?_isSome.mpr ⟨f, hp.mem_iff.mp hmem, by simpa using hfs⟩)
      have hfs' : f'.source = s := by simpa using List.find?_some hf'
      have hmem' : f' ∈ log := hp.mem_iff.mpr (List.mem_of_find?_eq_some hf')
      refine ⟨_, congrArg (Option.map _) hf', ?_, ?_, rfl, fun h => absurd rfl h⟩
      · exact hm f hmem f' hmem' (hfs.trans hfs'.symm)
      · exact hfs.trans hfs'.symm

/-- The origin of an entry is a registration for its source. -/
lemma mem_of_origin? (h : origin? log v s = some g) : g ∈ log ∧ g.source = s := by
  rw [origin?, Option.or_eq_some_iff, Option.or_eq_some_iff] at h
  rcases h with h | ⟨-, h | ⟨-, h⟩⟩
  · exact ⟨by simpa using List.mem_of_find?_eq_some h, (find?_isFor h).2⟩
  · unfold derivation? at h
    split at h
    · exact ⟨List.mem_of_find?_eq_some h, (find?_isFor h).2⟩
    · cases h
  · exact ⟨List.mem_of_find?_eq_some h, by simpa using List.find?_some h⟩

end Log

namespace Router

variable {r r' : Router}

/-- Every entry of a router has one in another that answers like it. -/
def Within (r r' : Router) : Prop :=
  ∀ v s e, r.entry? v s = some e → ∃ e', r'.entry? v s = some e' ∧ e.AnswersLike e'

/-- At most one source matches a path. -/
def IsSeparate (r : Router) : Prop :=
  ∀ path v s t, (r.matchOf path v s).isSome → (r.matchOf path v t).isSome → s = t

/-- Where at most one source matches, a verb is led to an entry that answers like the one that it is
led to in the other router. -/
lemma Within.found (h : r.Within r') (hs : r'.IsSeparate) {v : Verb}
    (hn : (OrderedMap.keys (r.table v)).Nodup) (hn' : (OrderedMap.keys (r'.table v)).Nodup)
    {path : String} {e : RouteEntry} {m : Regex.Match} (hf : r.found v path = some (e, m)) :
    ∃ e', r'.found v path = some (e', m) ∧ e.AnswersLike e' := by
  obtain ⟨s, he, hm⟩ := matchOf_of_found hn hf
  obtain ⟨e', he', halike⟩ := h v s e he
  have hm' : r'.matchOf path v s = some m := by
    rw [matchOf, he] at hm
    rw [matchOf, he', ← hm]
    exact congrArg (Regex.search · _) halike.matcher_eq.symm
  obtain ⟨⟨e'', m''⟩, hf'⟩ := Option.ne_none_iff_exists'.mp (found_ne_none hn' hm')
  obtain ⟨t, ht, hmt⟩ := matchOf_of_found hn' hf'
  obtain rfl : s = t := hs path v s t (by simp [hm']) (by simp [hmt])
  cases he'.symm.trans ht
  cases hm'.symm.trans hmt
  exact ⟨e', hf', halike⟩

lemma Within.mem_allowedFor (h : r.Within r') {v : Verb} {s : String} (hv : v ∈ r.allowedFor s) :
    v ∈ r'.allowedFor s := by
  simp only [allowedFor, List.mem_filter, Option.any_eq_true, decide_eq_true_eq] at hv ⊢
  obtain ⟨hall, e, he, hk⟩ := hv
  obtain ⟨e', he', halike⟩ := h v s e he
  exact ⟨hall, e', he', halike.kind_eq ▸ hk⟩

lemma Within.allowedFor_eq (h : r.Within r') (h' : r'.Within r) (s : String) :
    r.allowedFor s = r'.allowedFor s := by
  apply List.filter_congr
  intro v hv
  have hmem (r : Router) : v ∈ r.allowedFor s ↔ (r.entry? v s).any (·.kind = .explicit) := by
    simp [allowedFor, hv]
  rw [Bool.eq_iff_iff, ← hmem r, ← hmem r']
  exact ⟨h.mem_allowedFor, h'.mem_allowedFor⟩

/-- Entries that answer alike lead to one outcome. -/
lemma Within.outcome_eq (h : r.Within r') (h' : r'.Within r) (cs : List Char) {e e' : RouteEntry}
    (he : e.AnswersLike e') (m : Regex.Match) :
    r.outcome cs (some (e, m)) = r'.outcome cs (some (e', m)) := by
  rw [outcome, outcome, ← he.kind_eq, ← he.source_eq, h.allowedFor_eq h']
  by_cases hk : e.kind = .fallback
  · rw [if_pos hk, if_pos hk]
  · rw [if_neg hk, if_neg hk, he.eq_of_ne hk]

/-- Routers with the same entries, but for the paths of fallbacks, answer every request alike where
at most one source matches a path. -/
theorem Within.dispatch_eq (h : r.Within r') (h' : r'.Within r) (hs : r.IsSeparate)
    (hs' : r'.IsSeparate) (hn : ∀ v, (OrderedMap.keys (r.table v)).Nodup)
    (hn' : ∀ v, (OrderedMap.keys (r'.table v)).Nodup) (verb path : Value) :
    r.dispatch verb path = r'.dispatch verb path := by
  have hverb (v : Verb) (path : String) :
      (r.found v path).any (·.2.isCrossed) = (r'.found v path).any (·.2.isCrossed) ∧
        r.outcome (stripQuery path.toList) (r.found v path) =
          r'.outcome (stripQuery path.toList) (r'.found v path) := by
    cases hf : r.found v path with
    | some p =>
      obtain ⟨e', hf', halike⟩ := h.found hs' (hn v) (hn' v) hf
      rw [hf']
      exact ⟨rfl, h.outcome_eq h' _ halike _⟩
    | none =>
      cases hf' : r'.found v path with
      | none => exact ⟨rfl, rfl⟩
      | some p =>
        obtain ⟨e, he, -⟩ := h'.found hs (hn' v) (hn v) hf'
        rw [hf] at he
        cases he
  cases path with
  | text path =>
    cases verb with
    | text verb =>
      simp only [dispatch]
      cases Verb.ofName? (Text.upper verb) with
      | none => rfl
      | some v =>
        obtain ⟨hcross, houtcome⟩ := hverb v path
        simp only [hcross, houtcome]
    | _ => rfl
  | _ => rfl

/-- What a call completes depends on the configuration alone. -/
lemma registrations_congr (h : r.config = r'.config) (c : Call) :
    r.registrations c = r'.registrations c := by
  cases c with
  | route spec target action verb => rw [registrations, registrations, prepare_congr h]
  | resources mount target ident => exact completed_congr h target _
  | resource mount target => exact completed_congr h target _
  | reset => rfl
  | configure o => rfl

end Router

namespace Call

def spec? : Call → Option PathSpec
  | .route spec _ _ _ => some spec
  | _ => none

def registersText (c : Call) : Bool := c.spec?.any PathSpec.isTextual

variable {c : Call} {r : Router}

lemma flushes_of_registersText (h : c.registersText) : r.flushes c = false := by
  cases c with
  | route spec target action verb => rfl
  | _ => cases h

/-- What a call completes has the path that it registers. -/
lemma compile_of_mem_registrations {spec : PathSpec} (hs : c.spec? = some spec) {g : Registration}
    (hg : g ∈ r.registrations c) : r.compile spec = .ok g.pattern := by
  cases c with
  | route spec' target action verb =>
    cases hs
    cases hp : r.prepare spec target action verb with
    | error e => simp [Router.registrations, hp, Except.toOption] at hg
    | ok g' =>
      obtain rfl : g = g' := by simpa [Router.registrations, hp, Except.toOption] using hg
      exact (Router.prepare_eq_ok hp).2.2.2.2
  | _ => cases hs

end Call

namespace History

lemma run_concat (config : RouterConfig) (calls : List Call) (c : Call) :
    run config (calls ++ [c]) = (run config calls).step c := by
  rw [run, List.foldl_append]
  rfl

/-- Calls that register texts keep the configuration and log what each of them completes. -/
theorem run_of_registersText (config : RouterConfig) {calls : List Call}
    (h : ∀ c ∈ calls, c.registersText) :
    (run config calls).router.config = config ∧
      (run config calls).log = calls.flatMap ({ config } : Router).registrations := by
  induction calls using List.reverseRecOn with
  | nil => exact ⟨rfl, rfl⟩
  | append_singleton calls c ih =>
    obtain ⟨hconfig, hlog⟩ := ih fun c' hc => h c' (List.mem_append_left _ hc)
    have hflush : (run config calls).router.flushes c = false :=
      Call.flushes_of_registersText (h c (List.mem_append_right _ List.mem_cons_self))
    rw [run_concat]
    constructor
    · rw [step, Router.after_of_not_flushes _ _ hflush, Router.config_foldl_add, hconfig]
    · have hsame : (run config calls).router.config = ({ config } : Router).config := hconfig
      rw [step, hflush, if_neg Bool.false_ne_true, hlog, List.flatMap_append,
        List.flatMap_singleton, Router.registrations_congr hsame]

/-- The path of a logged registration is one that a call registers. -/
lemma compile_of_mem_log {config : RouterConfig} {calls : List Call}
    (h : ∀ c ∈ calls, c.registersText) {g : Registration} (hg : g ∈ (run config calls).log) :
    ∃ c ∈ calls, ∃ spec, c.spec? = some spec ∧ spec.isTextual ∧
      ({ config } : Router).compile spec = .ok g.pattern := by
  rw [(run_of_registersText config h).2] at hg
  obtain ⟨c, hc, hg⟩ := List.mem_flatMap.mp hg
  obtain ⟨spec, hs, ht⟩ := (Option.any_eq_true _ _).mp (h c hc)
  exact ⟨c, hc, spec, hs, ht, Call.compile_of_mem_registrations hs hg⟩

/-- Where no path is matched for two sources, at most one source of the tables matches a path. -/
lemma Faithful.isSeparate {h : History} (hf : h.Faithful) (hx : Log.Separate h.log) :
    h.router.IsSeparate := by
  intro path v s t hs ht
  obtain ⟨g, hg, hm⟩ := (isSome_matchOf_iff hf path v s).mp hs
  obtain ⟨g', hg', hm'⟩ := (isSome_matchOf_iff hf path v t).mp ht
  obtain ⟨hmem, rfl⟩ := Log.mem_of_origin? hg
  obtain ⟨hmem', rfl⟩ := Log.mem_of_origin? hg'
  by_contra hne
  exact hx g hmem g' hmem' hne path ⟨hm, hm'⟩

/-- In another order the tables hold entries that answer alike. -/
lemma Faithful.within {h h' : History} (hf : h.Faithful) (hf' : h'.Faithful)
    (hconfig : h.router.config = h'.router.config) (hp : h.log.Perm h'.log)
    (hd : Log.Distinct h.log) (hm : Log.OneMatcher h.log) : h.router.Within h'.router := by
  intro v s e he
  rw [hf.entry?_eq] at he
  rw [hf'.entry?_eq, ← hconfig]
  exact hd.entryOf_perm hp hm he

/-- Routes whose paths are texts may be registered in any order, with the calls that fail among
them: where no verb is registered twice for a source and no path is matched by two sources, the
routers that come of it answer every request alike. -/
theorem dispatch_perm (config : RouterConfig) {calls calls' : List Call} (hp : calls.Perm calls')
    (ht : ∀ c ∈ calls, c.registersText) (hd : Log.Distinct (run config calls).log)
    (hx : Log.Separate (run config calls).log) (verb path : Value) :
    (run config calls).router.dispatch verb path =
      (run config calls').router.dispatch verb path := by
  have ht' : ∀ c ∈ calls', c.registersText := fun c hc => ht c (hp.mem_iff.mpr hc)
  obtain ⟨hconfig, hlog⟩ := run_of_registersText config ht
  obtain ⟨hconfig', hlog'⟩ := run_of_registersText config ht'
  have hperm : (run config calls).log.Perm (run config calls').log := by
    rw [hlog, hlog']
    exact hp.flatMap_right _
  have htext : ∀ g ∈ (run config calls).log, g.pattern.spec.isTextual := by
    intro g hg
    obtain ⟨c, -, spec, -, hspec, hcompile⟩ := compile_of_mem_log ht hg
    rwa [Pattern.compile_eq_ok hcompile]
  have hf := faithful_run config calls
  have hf' := faithful_run config calls'
  have hm := (checked_run config calls).oneMatcher htext
  have hm' : Log.OneMatcher (run config calls').log := fun g hg g' hg' =>
    hm g (hperm.mem_iff.mpr hg) g' (hperm.mem_iff.mpr hg')
  have hx' : Log.Separate (run config calls').log := fun g hg g' hg' =>
    hx g (hperm.mem_iff.mpr hg) g' (hperm.mem_iff.mpr hg')
  have hsame := hconfig.trans hconfig'.symm
  exact (hf.within hf' hsame hperm hd hm).dispatch_eq
    (hf'.within hf hsame.symm hperm.symm (hd.perm hperm) hm') (hf.isSeparate hx)
    (hf'.isSeparate hx') hf.nodup_keys hf'.nodup_keys verb path

def lettered (c : Char) : List Path.Segment :=
  [⟨[c], none, none⟩, ⟨[], some (⟨['i', 'd'], false⟩, []), none⟩]

/-- The letter stands at the beginning of every text that the path matches. -/
lemma begins_of_lettered {c : Char} (hc : Path.isLiteral c) {p : Pattern} {cs : List Char}
    (hp : Pattern.compile true false (.text (String.ofList (Path.writePath (lettered c)))) = .ok p)
    (h : (p.matcher.search cs).isSome) : ∃ rest, cs = '/' :: c :: rest := by
  have hvalid : ∀ g ∈ lettered c, g.isValid := by
    rw [lettered, List.forall_mem_cons, List.forall_mem_singleton]
    exact ⟨by simp [Path.Segment.isValid, hc], by decide⟩
  rw [Path.compile_segments true false (Path.isOver_of_isValid hvalid)] at hp
  cases hp
  obtain ⟨w, rest, rfl, ht, -⟩ := Path.reading_of_search h
  have hexact {c d : Char} (h : c.toNat ∈ Regex.Casing.exact.variants d) : d = c :=
    (Char.toNat_inj.mp (List.mem_singleton.mp h)).symm
  cases ht with
  | plain hslash ht =>
    cases ht with
    | plain hletter ht =>
      rw [hexact hslash, hexact hletter]
      exact ⟨_, rfl⟩

/-- Routes for the paths of two letters, one of them for two verbs. -/
def letteredCalls : List Call :=
  [.route (.text "/a/:id") shower .null .null,
    .route (.text "/b/:id") shower (.text "update") (.text "put"),
    .route (.text "/a/:id") shower (.text "update") (.text "head")]

def sensitive : RouterConfig := { caseSensitive := .bool true }

lemma separate_letteredCalls : Log.Separate (run sensitive letteredCalls).log := by
  have hlettered : ∀ g ∈ (run sensitive letteredCalls).log, ∃ c, Path.isLiteral c ∧
      Pattern.compile true false (.text (String.ofList (Path.writePath (lettered c)))) =
        .ok g.pattern := by
    intro g hg
    obtain ⟨c, hc, spec, hs, -, hcompile⟩ := compile_of_mem_log (by decide) hg
    have : spec = .text "/a/:id" ∨ spec = .text "/b/:id" := by
      rcases List.mem_cons.mp hc with rfl | hc
      · exact .inl (Option.some.inj hs).symm
      · rcases List.mem_cons.mp hc with rfl | hc
        · exact .inr (Option.some.inj hs).symm
        · obtain rfl := List.mem_singleton.mp hc
          exact .inl (Option.some.inj hs).symm
    rcases this with rfl | rfl
    · exact ⟨'a', by decide, hcompile⟩
    · exact ⟨'b', by decide, hcompile⟩
  rintro g hg g' hg' hne path ⟨hm, hm'⟩
  obtain ⟨c, hc, hp⟩ := hlettered g hg
  obtain ⟨c', hc', hp'⟩ := hlettered g' hg'
  obtain ⟨rest, hrest⟩ := begins_of_lettered hc hp hm
  obtain ⟨rest', hrest'⟩ := begins_of_lettered hc' hp' hm'
  rw [hrest] at hrest'
  cases hrest'
  rw [hp] at hp'
  exact hne (congrArg Pattern.source (Except.ok.inj hp'))

theorem dispatch_perm_lettered : letteredCalls.Perm letteredCalls.reverse ∧
    (∀ c ∈ letteredCalls, c.registersText) ∧
    Log.Distinct (run sensitive letteredCalls).log ∧
    Log.Separate (run sensitive letteredCalls).log ∧
    ∀ verb path, (run sensitive letteredCalls).router.dispatch verb path =
      (run sensitive letteredCalls.reverse).router.dispatch verb path := by
  have hp : letteredCalls.Perm letteredCalls.reverse := (List.reverse_perm _).symm
  have ht : ∀ c ∈ letteredCalls, c.registersText := by decide
  have hd : Log.Distinct (run sensitive letteredCalls).log := by
    unfold Log.Distinct
    decide +kernel
  have hx := separate_letteredCalls
  exact ⟨hp, ht, hd, hx, dispatch_perm sensitive hp ht hd hx⟩

end History

end ActionRouting
