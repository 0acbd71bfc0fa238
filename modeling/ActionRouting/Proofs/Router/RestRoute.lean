import ActionRouting.Proofs.Path.Rest
import ActionRouting.Proofs.Router.SoleRoute

/-! A route alone in its router whose path ends in a star for the rest of the path. The URL that is
built for it leads back to it, with the values of its parameters and the rest as they were given. -/
namespace ActionRouting.Router

/-- A route whose path has whole segments, none of them optional, and the rest of the path behind
them is the only one of its router. Values that show something are given for all of its parameters,
and for the rest a value named by a star, or positional values. The URL that is built for it is
answered by the route. The parameters are the given values as texts, and the last capture group
took the rest as it was given, whatever characters it has. -/
theorem dispatch_urlFor_rest (config : RouterConfig) {gs : List Path.Whole} {r : Router}
    {target query : Target} {action verb : Value} {arguments : RouteArguments}
    {named : OrderedMap Value} {positional : List Value} (hv : ∀ g ∈ gs, g.isValid)
    (ho : ∀ g ∈ gs, g.isOptional = false) (hh : ∀ u, .text u ∈ gs → '#' ∉ u)
    (hr : Router.route { config } (.text (String.ofList (Path.restPath gs))) target action verb =
      .ok r)
    (hq : target.meantBy query) (hnull : query ≠ .value .null) (hempty : query ≠ .value (.text ""))
    (ha : arguments.unpack = .ok (named, positional)) (hs : ∀ g ∈ gs, g.IsServed named)
    (hrest : (Path.given? named "*").isSome ∨ positional ≠ []) :
    ∃ e url, r.entry? e.verb e.pattern.source = some e ∧ e.kind = .explicit ∧ e.target = target ∧
      readVerb verb = .ok e.verb ∧ action.orElse (.text "show") = .text e.action ∧
      r.urlFor query (.text e.action) arguments = .ok url ∧
      ∃ m, r.dispatch (.text e.verb.name) (.text url) = .ok (.matched m) ∧ m.entry = e ∧
        m.params = .ofPairs (Path.supplied named gs) ∧
        m.args = (Path.supplied named gs).map (some ·.2) ++
          [some (String.ofList (Path.restGiven named positional))] := by
  obtain ⟨g, hprepared, rfl⟩ := route_eq_ok hr
  obtain ⟨hverb, htarget, haction, -, hcompiled⟩ := prepare_eq_ok hprepared
  rw [compile, Path.compile_restPath _ _ hv] at hcompiled
  have hpattern := (Except.ok.inj hcompiled).symm
  have homitted : ∀ k ∈ gs, k.isOmitted named = false := by
    intro k hk
    cases k with
    | text u => rfl
    | hole h =>
      by_contra hnone
      have hoptional := hs _ hk
      rw [Path.Whole.IsServed, Path.given?_of_isOmitted (by simpa using hnone)] at hoptional
      exact absurd (ho _ hk) (by simpa [Path.Whole.isOptional] using hoptional)
  obtain ⟨m, hm, hcross, htexts⟩ := Path.search_filledRest (!config.caseSensitive.truthy)
    config.strictSlashes.truthy (Path.expression (Path.wholePieces gs) ++ Path.restText) positional
    hs homitted
  have hlen : (Path.slotsOf (Path.wholePieces gs) ++ [({} : Slot)]).length =
      Path.holesOf (Path.wholePieces gs) + 1 := by
    rw [List.length_append, Path.holesOf]
    rfl
  have hstrip : stripQuery (Path.filledRest named positional gs) =
      Path.filledRest named positional gs := Path.stripQuery_filledRest hv hh
  have hsearch : g.pattern.matcher.search (stripQuery (Path.filledRest named positional gs)) =
      some m := by
    rw [hpattern, hstrip, Path.patternOf, hlen]
    exact hm
  have hslots : g.pattern.slots = Path.slotsOf (Path.wholePieces gs) ++ [({} : Slot)] := by
    rw [hpattern]
    rfl
  refine ⟨g.entry g.verb .explicit, String.ofList (Path.filledRest named positional gs),
    (get?_table_sole config g g.verb).trans (congrArg some (if_pos rfl)), rfl, htarget, hverb,
    haction, ?_, _, dispatch_sole hsearch hcross, rfl, ?_, ?_⟩
  · rw [Registration.entry, urlFor_sole (htarget ▸ hq) hnull hempty (action_ne_empty hprepared) ha,
      urlOf, Registration.entry, hpattern]
    simp only [Path.patternOf, String.toList_ofList, Path.fill_restPath hv hs hrest]
  · rw [hstrip, hslots]
    exact Path.paramsOf_filledRest htexts
  · rw [hstrip]
    exact Path.decodeGroups_filledRest homitted htexts

/-- Slashes, stars, queries and line breaks in the rest of a path come back as they were given. -/
theorem dispatch_urlFor_rest_marks : ∃ r url m,
    Router.route { config := {} } (.text "/x/:id/*") History.shower .null .null = .ok r ∧
    r.urlFor History.shower (.text "show") (.mixed (.mapping [("id", .text "/*")])
      (.list [.text "", .text "a/*?b#\n", .null])) = .ok url ∧
    r.dispatch (.text "GET") (.text url) = .ok (.matched m) ∧ m.params = [("id", "/*")] ∧
    m.args = [some "/*", some "/a/*?b#\n/None"] := by
  let named : OrderedMap Value := [("id", .text "/*")]
  let positional : List Value := [.text "", .text "a/*?b#\n", .null]
  let gs : List Path.Whole := [.text ['x'], .hole ⟨"id".toList, false⟩]
  have hpath : "/x/:id/*" = String.ofList (Path.restPath gs) := by decide
  obtain ⟨r, hr, -⟩ := exists_of_any (x := Router.route { config := {} } (.text "/x/:id/*")
    History.shower .null .null) (p := fun _ => true) (by decide)
  have hserved : ∀ g ∈ gs, g.IsServed named := by
    rw [List.forall_mem_cons, List.forall_mem_singleton]
    exact ⟨trivial, show (Value.text "/*").display ≠ "" by decide⟩
  obtain ⟨e, url, -, -, -, hverb, haction, hurl, m, hm, -, hparams, hargs⟩ :=
    dispatch_urlFor_rest {} (by decide) (by decide) (by simp [gs]) (hpath ▸ hr)
      (by decide : History.shower.meantBy History.shower) (by simp [History.shower])
      (by simp [History.shower]) (show (RouteArguments.mixed (.mapping named)
        (.list positional)).unpack = .ok (named, positional) from rfl) hserved
      (.inr (List.cons_ne_nil _ _))
  have hget : e.verb = .get := (Except.ok.inj hverb).symm
  have hshow : e.action = "show" := (Value.text.inj haction).symm
  rw [hshow] at hurl
  rw [hget] at hm
  exact ⟨r, url, m, hr, hurl, hm, hparams.trans (by decide), hargs.trans (by decide)⟩

/-- Nothing is no value, neither for a parameter nor for the rest of a path. -/
theorem not_dispatch_urlFor_rest :
    (∃ r m, Router.route { config := {} } (.text "/:id/*") History.shower .null .null = .ok r ∧
      r.urlFor History.shower (.text "show") (.mixed (.mapping [("id", .null)])
        (.list [.text "x"])) = .ok "/:id/x" ∧
      r.dispatch (.text "GET") (.text "/:id/x") = .ok (.matched m) ∧
      Value.null.display = "None" ∧ m.params = [("id", ":id")]) ∧
    (∃ r m, Router.route { config := {} } (.text "/*") History.shower .null .null = .ok r ∧
      r.urlFor History.shower (.text "show") (.named (.mapping [("*", .null)])) = .ok "/*" ∧
      r.dispatch (.text "GET") (.text "/*") = .ok (.matched m) ∧ m.args = [some "*"]) ∧
    ∃ r, Router.route { config := {} } (.text "/*") (.controller
        { key := "x", name := some (.text ""), actions := ["show"] }) .null .null = .ok r ∧
      r.urlFor (.value (.text "")) (.text "show") (.positional (.list [.text "x"])) =
        .error .missingArguments := by
  refine ⟨?_, ?_, ?_⟩
  · obtain ⟨r, m, hr, hurl, hm, hparams⟩ := exists_of_leadsBack (show leadsBack (.text "/:id/*")
      History.shower (.mixed (.mapping [("id", .null)]) (.list [.text "x"])) "/:id/x"
      (fun m => decide (m.params = [("id", ":id")])) by decide +kernel)
    exact ⟨r, m, hr, hurl, hm, rfl, of_decide_eq_true hparams⟩
  · obtain ⟨r, m, hr, hurl, hm, hargs⟩ := exists_of_leadsBack (show leadsBack (.text "/*")
      History.shower (.named (.mapping [("*", .null)])) "/*"
      (fun m => decide (m.args = [some "*"])) by decide +kernel)
    exact ⟨r, m, hr, hurl, hm, of_decide_eq_true hargs⟩
  · obtain ⟨r, hr, h⟩ := exists_of_any (x := Router.route { config := {} } (.text "/*") (.controller
      { key := "x", name := some (.text ""), actions := ["show"] }) .null .null) (p := fun r =>
        decide (r.urlFor (.value (.text "")) (.text "show") (.positional (.list [.text "x"])) =
          .error .missingArguments)) (by decide +kernel)
    exact ⟨r, hr, of_decide_eq_true h⟩

end ActionRouting.Router
