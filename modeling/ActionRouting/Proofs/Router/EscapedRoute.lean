import ActionRouting.Proofs.Path.Escapes
import ActionRouting.Proofs.Router.SoleRoute

/-! A route alone in its router, with escaped characters in its path. The URL that is built for it
keeps the backslashes, which the path does not match. It leads back only where each escaped
character is a slash behind a parameter, and then the parameter has the backslash too. -/
namespace ActionRouting.Router

open ActionRouting.Path

/-- A route whose path has characters, escaped characters and whole segments that are parameters is
the only one of its router, and all of its parameters are given texts. The URL that is built for it
is its filled path. If each escaped character is behind a parameter and there is no hash, it leads
back to the route, and the parameters are the given texts, with a backslash where an escaped
character follows. Otherwise no route is found. So it leads back with the given texts if nothing is
escaped. -/
theorem dispatch_urlFor_escaped (config : RouterConfig) {as : List Atom} {r : Router}
    {target query : Target} {action verb values : Value} {named : OrderedMap Value}
    (h : Fills named as)
    (hr : Router.route { config } (.text (String.ofList (atomPath as))) target action verb = .ok r)
    (hq : target.meantBy query) (hnull : query ≠ .value .null) (hempty : query ≠ .value (.text ""))
    (hvalues : values.toMapping = .ok named) :
    ∃ e url, r.entry? e.verb e.pattern.source = some e ∧ e.kind = .explicit ∧ e.target = target ∧
      readVerb verb = .ok e.verb ∧ action.orElse (.text "show") = .text e.action ∧
      url = String.ofList (fill named [] (atomPath as)) ∧
      r.urlFor query (.text e.action) (.named values) = .ok url ∧
      (isRecovered as → ∃ m, r.dispatch (.text e.verb.name) (.text url) = .ok (.matched m) ∧
        m.entry = e ∧ m.params = .ofPairs (boundTo named as)) ∧
      (¬ isRecovered as → r.dispatch (.text e.verb.name) (.text url) = .ok .unmatched) ∧
      ((∀ c, Atom.escape c ∉ as) → Atom.char '#' ∉ as →
        ∃ m, r.dispatch (.text e.verb.name) (.text url) = .ok (.matched m) ∧
          m.entry = e ∧ m.params = .ofPairs (suppliedTo named as)) ∧
      ((holeNames as).Nodup → ∀ m, r.dispatch (.text e.verb.name) (.text url) = .ok (.matched m) →
        m.params = .ofPairs (suppliedTo named as) →
          (∀ c, Atom.escape c ∉ as) ∧ Atom.char '#' ∉ as) := by
  obtain ⟨g, hprepared, rfl⟩ := route_eq_ok hr
  obtain ⟨hverb, htarget, haction, -, hcompiled⟩ := prepare_eq_ok hprepared
  rw [compile, compile_atoms _ _ h.atomic] at hcompiled
  have hpattern := (Except.ok.inj hcompiled).symm
  have hslots : g.pattern.slots = atomSlots as := by rw [hpattern]; rfl
  have hurl : urlOf (g.entry g.verb .explicit) named [] =
      .ok (String.ofList (fill named [] (atomPath as))) := by
    rw [urlOf, Registration.entry, hpattern]
    simp only [atomPattern, String.toList_ofList]
  have hmatched (hk : isRecovered as) : ∃ m,
      (({ config } : Router).add g).dispatch (.text g.verb.name)
        (.text (String.ofList (fill named [] (atomPath as)))) = .ok (.matched m) ∧
      m.entry = g.entry g.verb .explicit ∧ m.params = .ofPairs (boundTo named as) := by
    obtain ⟨m, hm, hcross, hparams⟩ := search_fill [] config.caseSensitive.truthy
      config.strictSlashes.truthy h hk
    rw [← hpattern] at hm
    rw [← hslots] at hparams
    exact ⟨_, dispatch_sole hm hcross, rfl, hparams⟩
  have hlost (hk : ¬ isRecovered as) : (({ config } : Router).add g).dispatch (.text g.verb.name)
      (.text (String.ofList (fill named [] (atomPath as)))) = .ok .unmatched := by
    have hnone := search_fill_eq_none [] config.caseSensitive.truthy
      config.strictSlashes.truthy h (Bool.eq_false_iff.mpr hk)
    rw [← hpattern] at hnone
    rw [dispatch_name, found_sole, String.toList_ofList, hnone]
    rfl
  refine ⟨g.entry g.verb .explicit, _, ?_, rfl, htarget, hverb, haction, rfl, ?_, hmatched, hlost,
    fun he hh => ?_, fun hn m hm hparams => ?_⟩
  · exact (get?_table_sole config g g.verb).trans (congrArg some (if_pos rfl))
  · have ha : RouteArguments.unpack (.named values) = .ok (named, []) := by
      rw [RouteArguments.unpack, hvalues]
      rfl
    exact (urlFor_sole (htarget ▸ hq) hnull hempty (action_ne_empty hprepared) ha).trans hurl
  · rw [← boundTo_eq he]
    exact hmatched (isRecovered_of_not_mem h.no_set he hh)
  · have hk : isRecovered as := by
      by_contra hk
      cases hm.symm.trans (hlost hk)
    obtain ⟨m', hm', -, hparams'⟩ := hmatched hk
    cases hm.symm.trans hm'
    rw [hparams', OrderedMap.ofPairs_of_nodup (by rwa [keys_boundTo]),
      OrderedMap.ofPairs_of_nodup (by rwa [keys_suppliedTo])] at hparams
    exact not_mem_of_boundTo_eq hk hparams

/-- An escaped dot keeps its backslash, and the URL leads nowhere. -/
theorem dispatch_urlFor_escaped_dot : ∃ r,
    Router.route { config := {} } (.text "/:id/a\\.b") History.shower .null .null = .ok r ∧
    r.urlFor History.shower (.text "show") (.named (.mapping [("id", .text "7")])) =
      .ok "/7/a\\.b" ∧
    r.dispatch (.text "GET") (.text "/7/a\\.b") = .ok .unmatched := by
  let named : OrderedMap Value := [("id", .text "7")]
  let as : List Atom := [.hole ['i', 'd'], .char '/', .char 'a', .escape '.', .char 'b']
  have hpath : "/:id/a\\.b" = String.ofList (atomPath as) := by decide
  have hurl : String.ofList (fill named [] (atomPath as)) = "/7/a\\.b" := by decide
  obtain ⟨r, hr, -⟩ := exists_of_any (x := Router.route { config := {} } (.text "/:id/a\\.b")
    History.shower .null .null) (p := fun _ => true) (by decide +kernel)
  have hfills : Fills named as := by
    refine ⟨by decide, by simp [as], fun name hname => ?_⟩
    obtain rfl : name = ['i', 'd'] := by simpa [as] using hname
    exact ⟨.text "7", rfl, rfl, by decide, by simp [Atom.param, Hole.param]⟩
  obtain ⟨e, url, -, -, -, hverb, haction, rfl, hbuilt, -, hlost, -⟩ :=
    dispatch_urlFor_escaped {} hfills (hpath ▸ hr)
      (by decide : History.shower.meantBy History.shower) (by simp [History.shower])
      (by simp [History.shower]) (show (Value.mapping named).toMapping = .ok named from rfl)
  have hget : e.verb = .get := (Except.ok.inj hverb).symm
  have hshow : e.action = "show" := (Value.text.inj haction).symm
  have hnowhere := hlost (by decide)
  rw [hshow, hurl] at hbuilt
  rw [hget, hurl] at hnowhere
  exact ⟨r, hr, hbuilt, hnowhere⟩

end ActionRouting.Router
