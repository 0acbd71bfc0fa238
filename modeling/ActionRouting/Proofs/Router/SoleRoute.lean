import ActionRouting.Proofs.Path.Omitted
import ActionRouting.Proofs.Router.RoundTrip

/-! A route alone in its router. The URL that is built for it with some optional parameters left out
leads back to it if and only if its path does: the parameters are then the values that were given,
and else no route is found. -/
namespace ActionRouting

namespace OrderedMap

variable {β : Type}

lemma insert_of_not_mem {key : String} (value : β) {m : OrderedMap β} (h : key ∉ keys m) :
    insert key value m = m ++ [(key, value)] := by
  induction m with
  | nil => rfl
  | cons p m ih =>
    obtain ⟨hk, hm⟩ := List.ne_and_not_mem_of_not_mem_cons h
    rw [insert, if_neg fun he => hk he.symm, ih hm, List.cons_append]

lemma insertAll_of_nodup {pairs : List (String × β)} {m : OrderedMap β}
    (h : (keys m ++ keys pairs).Nodup) : insertAll pairs m = m ++ pairs := by
  induction pairs generalizing m with
  | nil => exact (List.append_nil m).symm
  | cons p pairs ih =>
    have hp : p.1 ∉ keys m := fun hm =>
      (List.nodup_append.mp h).2.2 p.1 hm p.1 List.mem_cons_self rfl
    have hkeys : keys (m ++ [p]) ++ keys pairs = keys m ++ keys (p :: pairs) := by
      simp [keys]
    rw [insertAll, List.foldl_cons, insert_of_not_mem p.2 hp, ← insertAll, ih (hkeys ▸ h),
      List.append_assoc, List.singleton_append]

/-- A list of pairs without repeated keys is a map. -/
lemma ofPairs_of_nodup {pairs : List (String × β)} (h : (keys pairs).Nodup) :
    ofPairs pairs = pairs := insertAll_of_nodup h

end OrderedMap

/-- The entry that a registration alone makes for a verb. -/
def Registration.sole (g : Registration) (config : RouterConfig) (v : Verb) : RouteEntry :=
  if v = g.verb then g.entry v .explicit
  else if v = .head ∧ g.verb = .get then g.entry .head .implicit
  else .fallback config g.pattern v

namespace Router

variable {config : RouterConfig} {g : Registration} {query : Target}

lemma table_sole (config : RouterConfig) (g : Registration) (v : Verb) :
    (({ config } : Router).add g).table v = [(g.source, g.sole config v)] := by
  have hfresh : ({ config } : Router).table v = [] := by simp [table]
  rw [table_add, hfresh, Table.add_eq, Registration.sole]
  simp only [OrderedMap.get?]
  split
  · rfl
  · split <;> rfl

lemma get?_table_sole (config : RouterConfig) (g : Registration) (v : Verb) :
    OrderedMap.get? g.source ((({ config } : Router).add g).table v) = some (g.sole config v) := by
  rw [table_sole, OrderedMap.get?, if_pos rfl]

lemma pattern_sole (config : RouterConfig) (g : Registration) (v : Verb) :
    (g.sole config v).pattern = g.pattern := by
  unfold Registration.sole
  split
  · rfl
  · split <;> rfl

/-- What a registration alone serves, it serves with its action. -/
lemma serves_sole {v : Verb} (h : (g.sole config v).kind ≠ .fallback) :
    (g.sole config v).action = g.action ∧ (g.sole config v).target = g.target := by
  unfold Registration.sole at h ⊢
  split
  · exact ⟨rfl, rfl⟩
  · split
    · exact ⟨rfl, rfl⟩
    · simp_all [RouteEntry.fallback]

/-- A registration alone is found by its target and its action. -/
lemma findRoute_sole (hq : g.target.meantBy query) :
    (({ config } : Router).add g).findRoute query (.text g.action) =
      some (g.entry g.verb .explicit) := by
  have hfind (v : Verb) : (((({ config } : Router).add g).table v).find? fun p =>
      p.2.kind != .fallback && (Value.text p.2.action).equal (.text g.action) &&
        p.2.target.meantBy query).map (·.2) =
        if (g.sole config v).kind = .fallback then none else some (g.sole config v) := by
    rw [table_sole]
    by_cases hk : (g.sole config v).kind = .fallback
    · simp [hk]
    · obtain ⟨haction, htarget⟩ := serves_sole hk
      simp [hk, haction, htarget, hq, Value.equal]
  simp only [findRoute, hfind]
  -- A verb before that of the registration has a fallback alone.
  cases hv : g.verb <;>
    simp [Verb.all, Registration.sole, hv, Registration.entry, RouteEntry.fallback]

/-- The only route is found where its pattern matches. -/
lemma found_alone (v : Verb) (path : String) :
    (({ config } : Router).add g).found v path =
      (g.pattern.matcher.search (stripQuery path.toList)).map (g.sole config v, ·) := by
  rw [found, table_sole]
  simp only [firstMatch, pattern_sole]
  cases g.pattern.matcher.search (stripQuery path.toList) <;> rfl

/-- The only route is found for its verb where its pattern matches. -/
lemma found_sole (path : String) :
    (({ config } : Router).add g).found g.verb path =
      (g.pattern.matcher.search (stripQuery path.toList)).map (g.entry g.verb .explicit, ·) := by
  rw [found_alone, Registration.sole, if_pos rfl]

/-- What is matched is matched by the only route. -/
lemma matched_sole {requested : Value} {path : String} {m : Matched}
    (h : (({ config } : Router).add g).dispatch requested (.text path) = .ok (.matched m)) :
    ∃ found, g.pattern.matcher.search (stripQuery path.toList) = some found ∧
      found.isCrossed = false ∧ m.entry.action = g.action ∧ m.entry.target = g.target ∧
      m.args = decodeGroups found (stripQuery path.toList) := by
  cases requested with
  | text name =>
    simp only [dispatch] at h
    split at h
    · next v _ =>
      rw [found_alone] at h
      cases hs : g.pattern.matcher.search (stripQuery path.toList) with
      | none =>
        rw [hs] at h
        cases h
      | some found =>
        rw [hs] at h
        simp only [Option.map_some, Option.any_some, outcome] at h
        split at h
        · cases h
        · next hcross =>
          split at h
          · cases h
          · next hk =>
            cases h
            obtain ⟨haction, htarget⟩ := serves_sole hk
            exact ⟨found, rfl, Bool.eq_false_iff.mpr hcross, haction, htarget, rfl⟩
    · cases h
  | _ => cases h

/-- The URL for the only route is that of its entry, unless the target that is asked for has no
name. -/
lemma urlFor_alone {arguments : RouteArguments} {named : OrderedMap Value}
    {positional : List Value} (hq : g.target.meantBy query)
    (ha : arguments.unpack = .ok (named, positional)) :
    (({ config } : Router).add g).urlFor query (.text g.action) arguments =
      if isMissing query (.text g.action) then .error .missingArguments
      else urlOf (g.entry g.verb .explicit) named positional := by
  rw [urlFor]
  split
  · rfl
  · rw [findRoute_sole hq, ha]
    rfl

/-- The URL for the only route is that of its entry. -/
lemma urlFor_sole {arguments : RouteArguments} {named : OrderedMap Value}
    {positional : List Value} (hq : g.target.meantBy query) (hnull : query ≠ .value .null)
    (hempty : query ≠ .value (.text "")) (hname : g.action ≠ "")
    (ha : arguments.unpack = .ok (named, positional)) :
    (({ config } : Router).add g).urlFor query (.text g.action) arguments =
      urlOf (g.entry g.verb .explicit) named positional := by
  have hmissing : isMissing query (.text g.action) = false :=
    isMissing_eq_false hnull hempty (by simpa [Value.truthy] using hname)
  rw [urlFor_alone hq ha, hmissing, if_neg Bool.false_ne_true]

/-- The only route answers its verb where its pattern is found. -/
lemma dispatch_sole {path : List Char} {m : Regex.Match}
    (hm : g.pattern.matcher.search (stripQuery path) = some m) (hcross : m.isCrossed = false) :
    (({ config } : Router).add g).dispatch (.text g.verb.name) (.text (String.ofList path)) =
      .ok (.matched ⟨g.entry g.verb .explicit, decodeGroups m (stripQuery path),
        paramsOf g.pattern.slots (decodeGroups m (stripQuery path))⟩) := by
  rw [dispatch_name, found_sole, String.toList_ofList, hm, Option.map_some, Option.any_some,
    hcross, if_neg Bool.false_ne_true, outcome]
  rfl

/-- A route whose path has whole segments is the only one of its router, and values are given for
all of its parameters, except that some of the optional ones may be left out. The URL that is built
for it is its filled path. If that leads back, the verb of the route is answered by the route, and
the parameters are the given values as texts. If not, no route is found. -/
theorem dispatch_urlFor_sole (config : RouterConfig) {gs : List Path.Whole} {r : Router}
    {target query : Target} {action verb values : Value} {named : OrderedMap Value}
    (hv : ∀ g ∈ gs, g.isValid) (hn : (gs.filterMap Path.Whole.name?).Nodup)
    (hr : Router.route { config } (.text (String.ofList (Path.wholePath gs))) target action verb =
      .ok r)
    (hq : target.meantBy query) (hnull : query ≠ .value .null) (hempty : query ≠ .value (.text ""))
    (hvalues : values.toMapping = .ok named) (hs : ∀ g ∈ gs, g.IsServed named) :
    ∃ e, r.entry? e.verb e.pattern.source = some e ∧ e.kind = .explicit ∧ e.target = target ∧
      readVerb verb = .ok e.verb ∧ action.orElse (.text "show") = .text e.action ∧
      r.urlFor query (.text e.action) (.named values) =
        .ok (String.ofList (Path.filledPath named gs)) ∧
      (Path.LeadsBack config.strictSlashes.truthy named gs → ∃ m,
        r.dispatch (.text e.verb.name) (.text (String.ofList (Path.filledPath named gs))) =
          .ok (.matched m) ∧ m.entry = e ∧ m.params = Path.supplied named gs) ∧
      (¬ Path.LeadsBack config.strictSlashes.truthy named gs →
        r.dispatch (.text e.verb.name) (.text (String.ofList (Path.filledPath named gs))) =
          .ok .unmatched) := by
  obtain ⟨g, hprepared, rfl⟩ := route_eq_ok hr
  obtain ⟨hverb, htarget, haction, -, hcompiled⟩ := prepare_eq_ok hprepared
  have hname : g.action ≠ "" := action_ne_empty hprepared
  rw [compile, Path.compile_whole _ _ hv] at hcompiled
  have hpattern := (Except.ok.inj hcompiled).symm
  refine ⟨g.entry g.verb .explicit, ?_, rfl, htarget, hverb, haction, ?_, fun hback => ?_,
    fun hback => ?_⟩
  · exact (get?_table_sole config g g.verb).trans (congrArg some (if_pos rfl))
  · have hmissing : isMissing query (.text g.action) = false :=
      isMissing_eq_false hnull hempty (by simpa [Value.truthy] using hname)
    have hurl : urlOf (g.entry g.verb .explicit) named [] =
        .ok (String.ofList (Path.filledPath named gs)) := by
      rw [urlOf, Registration.entry, hpattern]
      simp only [Path.patternOf, String.toList_ofList, Path.fill_whole hv hs]
    have hfind : (({ config } : Router).add g).findRoute query (.text g.action) =
        some (g.entry g.verb .explicit) := findRoute_sole (htarget ▸ hq)
    change urlFor _ query (.text g.action) _ = _
    rw [urlFor, hmissing, if_neg Bool.false_ne_true, hfind, RouteArguments.unpack, hvalues]
    exact hurl
  · obtain ⟨m, hm, hcross, htexts⟩ := Path.search_filledPath (b := !config.caseSensitive.truthy)
      (Path.expression (Path.wholePieces gs)) hs hback
    have hstrip : stripQuery (Path.filledPath named gs) = Path.filledPath named gs :=
      Path.stripQuery_filledPath hv hback.no_hash
    have hsearch : g.pattern.matcher.search (Path.filledPath named gs) = some m := by
      rw [hpattern]
      exact hm
    have hslots : g.pattern.slots = Path.slotsOf (Path.wholePieces gs) := by rw [hpattern]; rfl
    refine ⟨⟨g.entry g.verb .explicit, decodeGroups m (Path.filledPath named gs),
      paramsOf g.pattern.slots (decodeGroups m (Path.filledPath named gs))⟩, ?_, rfl, ?_⟩
    · change dispatch _ (.text g.verb.name) _ = _
      rw [dispatch_name, found_sole, String.toList_ofList, hstrip, hsearch, Option.map_some,
        Option.any_some, hcross, if_neg Bool.false_ne_true, outcome]
      rfl
    · change paramsOf g.pattern.slots _ = _
      rw [hslots, Path.paramsOf_heldOf htexts]
      exact OrderedMap.ofPairs_of_nodup ((Path.keys_supplied_sublist named gs).nodup hn)
  · have hnone : g.pattern.matcher.search (stripQuery (Path.filledPath named gs)) = none := by
      rw [hpattern]
      exact Path.search_filledPath_eq_none _ hv hback
    change dispatch _ (.text g.verb.name) _ = _
    rw [dispatch_name, found_sole, String.toList_ofList, hnone]
    rfl

lemma exists_of_any {ε α : Type} {x : Except ε α} {p : α → Bool} (h : x.toOption.any p) :
    ∃ a, x = .ok a ∧ p a := by
  cases x with
  | error e => cases h
  | ok a => exact ⟨a, rfl, h⟩

def answers (r : Router) (path : String) (p : Matched → Bool) : Bool :=
  match r.dispatch (.text "GET") (.text path) with
  | .ok (.matched m) => p m
  | _ => false

lemma exists_of_answers {r : Router} {path : String} {p : Matched → Bool}
    (h : r.answers path p) :
    ∃ m, r.dispatch (.text "GET") (.text path) = .ok (.matched m) ∧ p m := by
  unfold answers at h
  split at h
  · next m hm => exact ⟨m, hm, h⟩
  · cases h

/-- The URL that is built for a route alone in its router leads back to it, with a match of some
kind. -/
def leadsBack (spec : PathSpec) (target : Target) (arguments : RouteArguments) (url : String)
    (p : Matched → Bool) : Bool :=
  (Router.route { config := {} } spec target .null .null).toOption.any fun r =>
    decide (r.urlFor target (.text "show") arguments = .ok url) && r.answers url p

lemma exists_of_leadsBack {spec : PathSpec} {target : Target} {arguments : RouteArguments}
    {url : String} {p : Matched → Bool} (h : leadsBack spec target arguments url p) :
    ∃ r m, Router.route { config := {} } spec target .null .null = .ok r ∧
      r.urlFor target (.text "show") arguments = .ok url ∧
      r.dispatch (.text "GET") (.text url) = .ok (.matched m) ∧ p m := by
  obtain ⟨r, hr, hu⟩ := exists_of_any h
  rw [Bool.and_eq_true, decide_eq_true_iff] at hu
  obtain ⟨m, hm, hp⟩ := exists_of_answers hu.2
  exact ⟨r, m, hr, hu.1, hm, hp⟩

/-- The last parameter is left out, and its slash is the one that may be left over. -/
theorem dispatch_urlFor_sole_last : ∃ r m,
    Router.route { config := {} } (.text "/x/:name/:other?") History.shower .null .null = .ok r ∧
    r.urlFor History.shower (.text "show") (.named (.mapping [("name", .text "a/b")])) =
      .ok "/x/a%2Fb/" ∧
    r.dispatch (.text "GET") (.text "/x/a%2Fb/") = .ok (.matched m) ∧
    m.params = [("name", "a/b")] := by
  let named : OrderedMap Value := [("name", .text "a/b")]
  let gs : List Path.Whole :=
    [.text ['x'], .hole ⟨"name".toList, false⟩, .hole ⟨"other".toList, true⟩]
  have hpath : "/x/:name/:other?" = String.ofList (Path.wholePath gs) := by decide
  have hurl : String.ofList (Path.filledPath named gs) = "/x/a%2Fb/" := by decide
  obtain ⟨r, hr, -⟩ := exists_of_any (x := Router.route { config := {} } (.text "/x/:name/:other?")
    History.shower .null .null) (p := fun _ => true) (by decide +kernel)
  have hserved : ∀ g ∈ gs, g.IsServed named := by
    rw [List.forall_mem_cons, List.forall_mem_cons, List.forall_mem_singleton]
    exact ⟨trivial, show (Value.text "a/b").display ≠ "" by decide, rfl⟩
  have hback : Path.LeadsBack false named gs := ⟨by simp [gs], by decide, by decide⟩
  obtain ⟨e, -, -, -, hverb, haction, hbuilt, hmatched, -⟩ :=
    dispatch_urlFor_sole {} (by decide) (by decide) (hpath ▸ hr)
      (by decide : History.shower.meantBy History.shower) (by simp [History.shower])
      (by simp [History.shower]) (show (Value.mapping named).toMapping = .ok named from rfl) hserved
  obtain ⟨m, hm, -, hparams⟩ := hmatched hback
  have hget : e.verb = .get := (Except.ok.inj hverb).symm
  have hshow : e.action = "show" := (Value.text.inj haction).symm
  rw [hshow, hurl] at hbuilt
  rw [hget, hurl] at hm
  exact ⟨r, m, hr, hbuilt, hm, hparams.trans (by decide)⟩

/-- The URL that is built for a path alone in its router leads nowhere. -/
def LeadsNowhere (config : RouterConfig) (path : String) (fields : OrderedMap Value) : Prop :=
  ∃ r url, Router.route { config } (.text path) History.shower .null .null = .ok r ∧
    r.urlFor History.shower (.text "show") (.named (.mapping fields)) = .ok url ∧
    r.dispatch (.text "GET") (.text url) = .ok .unmatched

lemma leadsNowhere_of_any {config : RouterConfig} {path : String} {fields : OrderedMap Value}
    (url : String) (h : (Router.route { config } (.text path) History.shower .null
      .null).toOption.any fun r =>
        decide (r.urlFor History.shower (.text "show") (.named (.mapping fields)) = .ok url) &&
          (r.found .get url).isNone) : LeadsNowhere config path fields := by
  obtain ⟨r, hr, hu⟩ := exists_of_any h
  rw [Bool.and_eq_true, decide_eq_true_iff, Option.isNone_iff_eq_none] at hu
  refine ⟨r, url, hr, hu.1, ?_⟩
  have hdispatch := dispatch_name r url .get
  rw [hu.2] at hdispatch
  exact hdispatch

/-- A slash that is left before other segments, or at the end where slashes are strict, leads
nowhere, and neither does a path with a hash. Nothing is no value, and no target has an empty
name. -/
theorem not_dispatch_urlFor_sole :
    LeadsNowhere {} "/:x?/b" [] ∧
    LeadsNowhere { strictSlashes := .bool true } "/x/y/:name/:other?" [("name", .text "foo")] ∧
    LeadsNowhere {} "/a#b" [] ∧
    (∃ r, Router.route { config := {} } (.text "/:id") History.shower .null .null = .ok r ∧
      r.urlFor History.shower (.text "show") (.named (.mapping [("id", .null)])) = .ok "/:id" ∧
      ∃ m, r.dispatch (.text "GET") (.text "/:id") = .ok (.matched m) ∧
        m.params = [("id", ":id")]) ∧
    ∃ r, Router.route { config := {} } (.text "/x") (.controller
        { key := "x", name := some (.text ""), actions := ["show"] }) .null .null = .ok r ∧
      r.urlFor (.value (.text "")) (.text "show") (.named (.mapping [])) =
        .error .missingArguments := by
  refine ⟨leadsNowhere_of_any "//b" (by decide +kernel),
    leadsNowhere_of_any "/x/y/foo/" (by decide +kernel),
    leadsNowhere_of_any "/a#b" (by decide +kernel), ?_, ?_⟩
  · obtain ⟨r, hr, h⟩ := exists_of_any (x := Router.route { config := {} } (.text "/:id")
      History.shower .null .null) (p := fun r =>
        decide (r.urlFor History.shower (.text "show") (.named (.mapping [("id", .null)])) =
          .ok "/:id") &&
        match r.dispatch (.text "GET") (.text "/:id") with
        | .ok (.matched m) => m.params == [("id", ":id")]
        | _ => false) (by decide +kernel)
    rw [Bool.and_eq_true, decide_eq_true_iff] at h
    refine ⟨r, hr, h.1, ?_⟩
    have hmatched := h.2
    split at hmatched
    · next m hm => exact ⟨m, hm, by simpa using hmatched⟩
    · cases hmatched
  · obtain ⟨r, hr, h⟩ := exists_of_any (x := Router.route { config := {} } (.text "/x") (.controller
      { key := "x", name := some (.text ""), actions := ["show"] }) .null .null) (p := fun r =>
        decide (r.urlFor (.value (.text "")) (.text "show") (.named (.mapping [])) =
          .error .missingArguments)) (by decide +kernel)
    exact ⟨r, hr, by simpa using h⟩

end Router

end ActionRouting
