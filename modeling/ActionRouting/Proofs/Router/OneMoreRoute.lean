import ActionRouting.Proofs.Router.Agreement
import ActionRouting.Proofs.Value.Kinds

/-! One more route. Where all paths are texts, a registration puts its source behind the others or
takes its place among the entries of its own source. So no request changes the source that decides
about it, and what it is answered changes only as far as the registration is for that source. -/
namespace ActionRouting

/-- The outcome where one more verb is allowed: it is listed with the others, in the order of all
verbs. -/
def Disposition.allowing (v : Verb) : Disposition → Disposition
  | .notAllowed allowed => .notAllowed (Verb.all.filter fun u => u ∈ allowed ∨ u = v)
  | d => d

namespace Router

/-- A source decides about a request: the entry that its verb is led to is of that source. -/
def DecidedBy (r : Router) (name path s : String) : Prop :=
  ∃ u e m, Verb.ofName? (Text.upper name) = some u ∧ r.found u path = some (e, m) ∧
    e.pattern.source = s

/-- `HEAD` has no more than a fallback under a source. -/
def LacksHead (r : Router) (s : String) : Prop :=
  ∃ e, r.entry? .head s = some e ∧ e.kind = .fallback

/-- What a route for a verb and a path leaves of the answer to a request. The source that decides
stays. If it is another one, so does the answer. If it is that of the path, the answer changes for
the verb itself, for a `HEAD` that is then derived from it, and else by one more allowed verb. A
request that was not known stays so unless the path matches it. -/
structure Spares (r r' : Router) (v : Verb) (p : Pattern) (name path : String) : Prop where
  decided : ∀ s, r.DecidedBy name path s → r'.DecidedBy name path s
  other : ∀ s, r.DecidedBy name path s → s ≠ p.source →
    r'.dispatch (.text name) (.text path) = r.dispatch (.text name) (.text path)
  own : r.DecidedBy name path p.source → Verb.ofName? (Text.upper name) ≠ some v →
    ¬ (Verb.ofName? (Text.upper name) = some .head ∧ v = .get ∧ r.LacksHead p.source) →
    r'.dispatch (.text name) (.text path) =
      (r.dispatch (.text name) (.text path)).map (·.allowing v)
  unmatched : r.dispatch (.text name) (.text path) = .ok .unmatched →
    r'.dispatch (.text name) (.text path) = .ok .unmatched ∨
      (p.matcher.search (stripQuery path.toList)).isSome

variable {r : Router} {g : Registration} {u : Verb} {name path s : String} {e : RouteEntry}
  {m : Regex.Match}

lemma entry?_add_of_ne (h : g.source ≠ s) : Router.entry? (r.add g) u s = r.entry? u s := by
  rw [Router.entry?, table_add, Table.get?_add_of_ne _ _ _ _ h, Router.entry?]

/-- An entry of the registered source stays, unless it is that of the registered verb or a fallback
that `HEAD` has where `GET` is registered. -/
lemma entry?_add_self (he : r.entry? u g.source = some e) (hu : u ≠ g.verb)
    (hhead : ¬ (u = .head ∧ g.verb = .get ∧ e.kind = .fallback)) :
    Router.entry? (r.add g) u g.source = some e := by
  rw [Router.entry?] at he
  rw [Router.entry?, table_add, Table.get?_add_self, if_neg hu, he]
  exact if_neg hhead

/-- A verb is allowed for the registered source if it was before or is the registered one. -/
lemma mem_allowedFor_add_self :
    u ∈ (r.add g).allowedFor g.source ↔ u ∈ r.allowedFor g.source ∨ u = g.verb := by
  simp only [allowedFor, List.mem_filter, Verb.mem_all, true_and, Router.entry?, table_add,
    Table.get?_add_self]
  by_cases hu : u = g.verb
  · simp [hu, Registration.entry]
  · rw [if_neg hu, or_iff_left hu]
    cases OrderedMap.get? g.source (r.table u) with
    | none =>
      dsimp only
      split <;> rfl
    | some e =>
      dsimp only
      split
      · next h =>
        simp [Registration.entry, h.2.2]
      · rfl

lemma allowedFor_add_of_ne (h : g.source ≠ s) : (r.add g).allowedFor s = r.allowedFor s := by
  simp only [allowedFor, entry?_add_of_ne h]

lemma allowedFor_add_self : (r.add g).allowedFor g.source =
    Verb.all.filter fun u => u ∈ r.allowedFor g.source ∨ u = g.verb := by
  apply List.filter_congr
  intro u hu
  rw [Bool.eq_iff_iff, decide_eq_true_iff, ← mem_allowedFor_add_self]
  simp [allowedFor, hu]

lemma dispatch_of_ofName? (hu : Verb.ofName? (Text.upper name) = some u) :
    r.dispatch (.text name) (.text path) =
      if (r.found u path).any (·.2.isCrossed) then .error .crossedGroup
      else .ok (r.outcome (stripQuery path.toList) (r.found u path)) := by
  simp only [dispatch, hu]

/-- What a verb answers that is led to an entry by a whole match. -/
lemma dispatch_of_found (hu : Verb.ofName? (Text.upper name) = some u)
    (hf : r.found u path = some (e, m)) (hc : m.isCrossed = false) :
    r.dispatch (.text name) (.text path) =
      if e.kind = .fallback then .ok (.notAllowed (r.allowedFor e.pattern.source))
      else
        let args := decodeGroups m (stripQuery path.toList)
        .ok (.matched ⟨e, args, paramsOf e.pattern.slots args⟩) := by
  rw [dispatch_of_ofName? hu, hf, Option.any_some, hc, if_neg Bool.false_ne_true, outcome]
  split <;> rfl

lemma search_of_found (h : r.found u path = some (e, m)) :
    e.pattern.matcher.search (stripQuery path.toList) = some m := by
  rw [found] at h
  generalize r.table u = t at h
  induction t with
  | nil => cases h
  | cons p t ih =>
    rw [firstMatch] at h
    split at h
    · next hm =>
      cases h
      exact hm
    · exact ih h

lemma dispatch_of_ofName?_none (hu : Verb.ofName? (Text.upper name) = none) :
    r.dispatch (.text name) (.text path) = .ok .unmatched := by
  simp only [dispatch, hu]

/-- A request is not known where its verb is led to no entry. -/
lemma dispatch_eq_unmatched_iff (hu : Verb.ofName? (Text.upper name) = some u) :
    r.dispatch (.text name) (.text path) = .ok .unmatched ↔ r.found u path = none := by
  rw [dispatch_of_ofName? hu]
  cases hf : r.found u path with
  | none => simp [outcome]
  | some p =>
    simp only [outcome, reduceCtorEq, iff_false]
    split
    · rintro ⟨⟩
    · split <;> rintro ⟨⟩

end Router

namespace History

variable {h : History} {g : Registration} {u : Verb} {path s : String} {e : RouteEntry}
  {m : Regex.Match}

def register (h : History) (g : Registration) : History := ⟨h.router.add g, h.log ++ [g]⟩

lemma Faithful.register (hf : h.Faithful) (g : Registration) : (h.register g).Faithful := by
  have hadd := congrArg (Router.add · g) hf
  rwa [← Router.replay_concat] at hadd

lemma Checked.register (hc : h.Checked) (hg : h.router.Accepts g) : (h.register g).Checked := by
  intro g' hg'
  rcases List.mem_append.mp hg' with hg' | hg'
  · exact (hc g' hg').congr (Router.config_add _ _)
  · rw [List.mem_singleton.mp hg']
    exact hg.congr (Router.config_add _ _)

/-- An entry matches as every registration for its source does. -/
lemma matchOf_of_oneMatcher (hf : h.Faithful) (hm : Log.OneMatcher h.log) (hg : g ∈ h.log)
    (path : String) (u : Verb) :
    h.router.matchOf path u g.source = g.pattern.matcher.search (stripQuery path.toList) := by
  obtain ⟨e, he, hd⟩ := hf.describes g.source ((Log.mem_sources _ _).mpr ⟨g, hg, rfl⟩) u
  obtain ⟨g', hg', hp⟩ := hd.pattern_mem
  have hs : g'.source = g.source := by rw [Registration.source, ← hp, hd.source_eq]
  rw [Router.matchOf, he, Option.bind_some, hp, hm g' hg' g hg hs]

/-- A source matches as before. -/
lemma matchOf_register (hf : h.Faithful) (hm : Log.OneMatcher (h.register g).log)
    (hs : s ∈ Log.sources h.log) (path : String) (u : Verb) :
    (h.register g).router.matchOf path u s = h.router.matchOf path u s := by
  obtain ⟨g', hg', rfl⟩ := (Log.mem_sources _ _).mp hs
  have hlog : ∀ f ∈ h.log, f ∈ (h.register g).log := fun f hf => List.mem_append_left _ hf
  have hm' : Log.OneMatcher h.log := fun f hf f' hf' => hm f (hlog f hf) f' (hlog f' hf')
  rw [matchOf_of_oneMatcher (hf.register g) hm (hlog g' hg'), matchOf_of_oneMatcher hf hm' hg']

/-- What a verb is led to stands under its source, and no earlier source has a match. -/
lemma Faithful.found_eq_some (hf : h.Faithful) (hfound : h.router.found u path = some (e, m)) :
    ∃ earlier later, Log.sources h.log = earlier ++ e.pattern.source :: later ∧
      (∀ t ∈ earlier, h.router.matchOf path u t = none) ∧
      h.router.entry? u e.pattern.source = some e ∧
      h.router.matchOf path u e.pattern.source = some m := by
  rw [Router.found_eq_findSome? _ _ (hf.nodup_keys u), hf.keys_table,
    List.findSome?_eq_some_iff] at hfound
  obtain ⟨earlier, s, later, hsplit, hs, hfirst⟩ := hfound
  obtain ⟨e', he, hm⟩ := Option.bind_eq_some_iff.mp hs
  obtain ⟨m', hm, hp⟩ := Option.map_eq_some_iff.mp hm
  cases hp
  have hmem {t : String} (ht : t ∈ earlier ++ s :: later) : t ∈ Log.sources h.log := hsplit ▸ ht
  have hsource : e.pattern.source = s := by
    obtain ⟨e'', he'', hd⟩ := hf.describes s (hmem (by simp)) u
    cases he.symm.trans he''
    exact hd.source_eq
  subst hsource
  refine ⟨earlier, later, hsplit, fun t ht => ?_, he, hm⟩
  obtain ⟨e', he', -⟩ := hf.describes t (hmem (List.mem_append_left _ ht)) u
  simpa [he'] using hfirst t ht

/-- A verb that is led to an entry is led to the entry that its source has then, with the same
match. -/
lemma found_register (hf : h.Faithful) (hm : Log.OneMatcher (h.register g).log)
    (hfound : h.router.found u path = some (e, m)) :
    ∃ e', Router.entry? (h.register g).router u e.pattern.source = some e' ∧
      e'.pattern.source = e.pattern.source ∧
      (h.register g).router.found u path = some (e', m) := by
  obtain ⟨earlier, later, hsplit, hfirst, he, hmatch⟩ := hf.found_eq_some hfound
  have hf' := hf.register g
  -- The new source comes last, if it is new.
  obtain ⟨others, hsplit'⟩ : ∃ others,
      Log.sources (h.register g).log = earlier ++ e.pattern.source :: others := by
    rw [register, Log.sources_concat, hsplit]
    split
    · exact ⟨later, rfl⟩
    · exact ⟨later ++ [g.source], by simp⟩
  have hmem {t : String} (ht : t ∈ earlier ++ e.pattern.source :: later) :
      t ∈ Log.sources h.log := hsplit ▸ ht
  obtain ⟨e', he', hd⟩ := hf'.describes e.pattern.source (by simp [hsplit']) u
  refine ⟨e', he', hd.source_eq, ?_⟩
  have hsources : (h.register g).router.sources = Log.sources (h.register g).log :=
    hf'.keys_table .get
  refine Router.found_of_first ((hf'.keys_table u).trans hsources.symm) (hf'.nodup_keys .get)
    (hsources.trans hsplit') (fun t ht => ?_) he' ?_
  · rw [matchOf_register hf hm (hmem (List.mem_append_left _ ht)), hfirst t ht]
  · rw [matchOf_register hf hm (hmem (by simp)), hmatch]

lemma found_register_of_kept (hf : h.Faithful) (hm : Log.OneMatcher (h.register g).log)
    (hfound : h.router.found u path = some (e, m))
    (hkept : Router.entry? (h.router.add g) u e.pattern.source = some e) :
    (h.router.add g).found u path = some (e, m) := by
  obtain ⟨e', he', -, hfound'⟩ := found_register hf hm hfound
  cases he'.symm.trans hkept
  exact hfound'

/-- A verb that is led nowhere is led nowhere still, unless the registered path has a match. -/
lemma found_register_none (hf : h.Faithful) (hm : Log.OneMatcher (h.register g).log)
    (hfound : h.router.found u path = none)
    (hg : g.pattern.matcher.search (stripQuery path.toList) = none) :
    (h.register g).router.found u path = none := by
  have hf' := hf.register g
  rw [Router.found_eq_findSome? _ _ (hf.nodup_keys u), List.findSome?_eq_none_iff,
    hf.keys_table] at hfound
  rw [Router.found_eq_findSome? _ _ (hf'.nodup_keys u), List.findSome?_eq_none_iff,
    hf'.keys_table]
  intro s hs
  have hnone : (h.register g).router.matchOf path u s = none := by
    by_cases hold : s ∈ Log.sources h.log
    · obtain ⟨e, he, -⟩ := hf.describes s hold u
      rw [matchOf_register hf hm hold]
      simpa [he] using hfound s hold
    · have hnew : s = g.source := by
        rw [register, Log.sources_concat] at hs
        split at hs
        · exact absurd hs hold
        · exact List.mem_singleton.mp ((List.mem_append.mp hs).resolve_left hold)
      rw [hnew, matchOf_of_oneMatcher hf' hm (List.mem_append_right _ List.mem_cons_self), hg]
  simp [hnone]

/-- One more registration of a text spares the other routes. -/
lemma spares_register (hf : h.Faithful) (hm : Log.OneMatcher (h.register g).log)
    (name path : String) :
    h.router.Spares (h.router.add g) g.verb g.pattern name path where
  decided := by
    rintro s ⟨u, e, m, hu, hfound, rfl⟩
    obtain ⟨e', -, hs, hfound'⟩ := found_register hf hm hfound
    exact ⟨u, e', m, hu, hfound', hs⟩
  other := by
    rintro s ⟨u, e, m, hu, hfound, rfl⟩ hne
    obtain ⟨-, -, -, -, he, -⟩ := hf.found_eq_some hfound
    have hsame : Router.entry? (h.router.add g) u e.pattern.source = some e := by
      rw [Router.entry?_add_of_ne (Ne.symm hne), he]
    rw [Router.dispatch_of_ofName? hu, Router.dispatch_of_ofName? hu,
      found_register_of_kept hf hm hfound hsame, hfound]
    simp only [Router.outcome, Router.allowedFor_add_of_ne (Ne.symm hne)]
  own := by
    rintro ⟨u, e, m, hu, hfound, hs⟩ hverb hhead
    obtain ⟨-, -, -, -, he, -⟩ := hf.found_eq_some hfound
    have hsame : Router.entry? (h.router.add g) u e.pattern.source = some e := by
      rw [hs] at he ⊢
      refine Router.entry?_add_self he (fun heq => hverb (heq ▸ hu)) ?_
      rintro ⟨rfl, hget, hkind⟩
      exact hhead ⟨hu, hget, e, he, hkind⟩
    rw [Router.dispatch_of_ofName? hu, Router.dispatch_of_ofName? hu,
      found_register_of_kept hf hm hfound hsame, hfound]
    simp only [Option.any_some, Router.outcome, hs]
    cases m.isCrossed with
    | true => rfl
    | false =>
      by_cases hkind : e.kind = .fallback
      · simp only [hkind, Bool.false_eq_true, if_false, if_true]
        exact congrArg (fun allowed => Except.ok (Disposition.notAllowed allowed))
          Router.allowedFor_add_self
      · simp only [hkind, Bool.false_eq_true, if_false]
        rfl
  unmatched := by
    intro hnone
    cases hu : Verb.ofName? (Text.upper name) with
    | none => exact .inl (Router.dispatch_of_ofName?_none hu)
    | some u =>
      rw [Router.dispatch_eq_unmatched_iff hu] at hnone ⊢
      cases hg : g.pattern.matcher.search (stripQuery path.toList) with
      | some m => exact .inr rfl
      | none => exact .inl (found_register_none hf hm hnone hg)

/-- After any calls that register texts, one more route whose path is a text, and which is
registered for a verb and a compiled path, spares the other routes: for every request, what it
leaves of the answer is as told. -/
theorem route_spares (config : RouterConfig) (calls : List Call)
    (ht : ∀ g ∈ (run config calls).log, g.pattern.spec.isTextual) {spec : PathSpec}
    (hspec : spec.isTextual) {target : Target} {action verb : Value} {r' : Router}
    (hr : (run config calls).router.route spec target action verb = .ok r') :
    ∃ v p, Router.readVerb verb = .ok v ∧ (run config calls).router.compile spec = .ok p ∧
      ∀ name path, (run config calls).router.Spares r' v p name path := by
  have hf := faithful_run config calls
  have hc := checked_run config calls
  generalize run config calls = h at *
  obtain ⟨g, hprepared, rfl⟩ := Router.route_eq_ok hr
  obtain ⟨hverb, -, -, -, hcompiled⟩ := Router.prepare_eq_ok hprepared
  have hc' : (h.register g).Checked := hc.register ⟨_, _, _, _, hprepared⟩
  have hm : Log.OneMatcher (h.register g).log := by
    refine hc'.oneMatcher fun g' hg' => ?_
    rcases List.mem_append.mp hg' with hg' | hg'
    · exact ht g' hg'
    · rw [List.mem_singleton.mp hg', Pattern.compile_eq_ok hcompiled]
      exact hspec
  exact ⟨g.verb, g.pattern, hverb, hcompiled, spares_register hf hm⟩

/-- A verb more for a path that is shared with others: a verb without a route of its own is led to
the same source, and is told of one more verb. -/
theorem route_spares_overlapping : ∃ r',
    (∀ g ∈ (run {} overlappingCalls).log, g.pattern.spec.isTextual) ∧
    (PathSpec.text "/:x").isTextual ∧
    (run {} overlappingCalls).router.route (.text "/:x") shower (.text "update")
      (.text "delete") = .ok r' ∧
    (run {} overlappingCalls).router.DecidedBy "Trace" "/q" "^/(?:([^/]+?))/?$" ∧
    r'.DecidedBy "Trace" "/q" "^/(?:([^/]+?))/?$" ∧
    r'.dispatch (.text "Trace") (.text "/q") =
      ((run {} overlappingCalls).router.dispatch (.text "Trace") (.text "/q")).map
        (·.allowing .delete) := by
  have ht : (run {} overlappingCalls).log.all (·.pattern.spec.isTextual) = true := by
    decide +kernel
  have hok : ((run {} overlappingCalls).router.route (.text "/:x") shower (.text "update")
      (.text "delete")).isOk := by decide +kernel
  have hsource : ((run {} overlappingCalls).router.compile (.text "/:x")).toOption.map
      (·.source) = some "^/(?:([^/]+?))/?$" := by decide +kernel
  have hfound : ((run {} overlappingCalls).router.found .trace "/q").any
      (·.1.pattern.source == "^/(?:([^/]+?))/?$") := by decide +kernel
  have hdecided : (run {} overlappingCalls).router.DecidedBy "Trace" "/q"
      "^/(?:([^/]+?))/?$" := by
    obtain ⟨⟨e, m⟩, hf, hs⟩ := (Option.any_eq_true _ _).mp hfound
    exact ⟨.trace, e, m, by decide, hf, beq_iff_eq.mp hs⟩
  obtain ⟨r', hr⟩ := Result.isOk_iff.mp hok
  obtain ⟨v, p, hverb, hcompiled, hspares⟩ :=
    @route_spares {} overlappingCalls (List.all_eq_true.mp ht) (.text "/:x") rfl _ _ _ _ hr
  have hp : p.source = "^/(?:([^/]+?))/?$" := by
    rw [hcompiled] at hsource
    exact Option.some.inj hsource
  have hv : v = .delete := (Except.ok.inj hverb).symm
  have h := hspares "Trace" "/q"
  rw [← hp] at hdecided ⊢
  subst hv
  refine ⟨r', List.all_eq_true.mp ht, rfl, hr, hdecided, h.decided _ hdecided, ?_⟩
  exact h.own hdecided (by decide) fun hhead => absurd hhead.1 (by decide)

end History

end ActionRouting
