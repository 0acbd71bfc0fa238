import ActionRouting.Proofs.Path.Lost
import ActionRouting.Proofs.Router.Agreement
import ActionRouting.Router.Reverse

/-! The URL of a route leads back to it. The URL that is built for an entry, with a text for each of
its parameters, is answered by that entry with these texts, unless an earlier source takes it. -/
namespace ActionRouting

namespace OrderedMap

lemma get?_of_mem {β : Type} {m : OrderedMap β} (hn : (keys m).Nodup) {key : String} {value : β}
    (h : (key, value) ∈ m) : get? key m = some value := by
  induction m with
  | nil => cases h
  | cons p rest ih =>
    obtain ⟨hk, hn⟩ := List.nodup_cons.mp hn
    rcases List.mem_cons.mp h with rfl | h
    · exact if_pos rfl
    · have hne : ¬ p.1 = key := by
        rintro rfl
        exact hk (List.mem_map.mpr ⟨_, h, rfl⟩)
      rw [get?, if_neg hne]
      exact ih hn h

end OrderedMap

namespace Log

/-- An entry that is no fallback was registered. -/
lemma registered_of_entryOf {config : RouterConfig} {log : List Registration} {v : Verb}
    {s : String} {e : RouteEntry} (h : entryOf config log v s = some e) (hk : e.kind ≠ .fallback) :
    ∃ g ∈ log, e.pattern = g.pattern ∧ e.action = g.action := by
  rw [entryOf] at h
  cases hl : latest? log v s with
  | some g =>
    rw [hl] at h
    cases h
    exact ⟨g, by simpa using List.mem_of_find?_eq_some hl, rfl, rfl⟩
  | none =>
    rw [hl] at h
    cases hd : derivation? log v s with
    | some g =>
      rw [hd] at h
      cases h
      unfold derivation? at hd
      split at hd
      · exact ⟨g, List.mem_of_find?_eq_some hd, rfl, rfl⟩
      · cases hd
    | none =>
      rw [hd] at h
      obtain ⟨g, -, rfl⟩ := Option.map_eq_some_iff.mp h
      exact absurd rfl hk

end Log

namespace Router

variable {r : Router} {query : Target} {action : Value} {e : RouteEntry}

def sourcesBefore (r : Router) (s : String) : List String := r.sources.takeWhile (· != s)

lemma sources_eq_append {s : String} (h : s ∈ r.sources) :
    ∃ later, r.sources = r.sourcesBefore s ++ s :: later := by
  obtain ⟨earlier, later, he, hs⟩ := List.eq_append_cons_of_mem h
  refine ⟨later, ?_⟩
  have htake : r.sourcesBefore s = earlier := by
    rw [sourcesBefore, he, List.takeWhile_append_of_pos, List.takeWhile_cons_of_neg (by simp),
      List.append_nil]
    intro t ht
    simpa using fun hts : t = s => hs (hts ▸ ht)
  rw [htake, he]

/-- What is found for a target and an action stands in a table, is no fallback and has that
action. -/
lemma findRoute_eq_some (h : r.findRoute query action = some e) :
    ∃ v s, (s, e) ∈ r.table v ∧ e.kind ≠ .fallback ∧ action = .text e.action := by
  obtain ⟨v, -, hv⟩ := List.exists_of_findSome?_eq_some h
  obtain ⟨⟨s, e'⟩, hfind, rfl⟩ := Option.map_eq_some_iff.mp hv
  have hp := List.find?_some hfind
  simp only [Bool.and_eq_true, bne_iff_ne] at hp
  refine ⟨v, s, List.mem_of_find?_eq_some hfind, hp.1.1, ?_⟩
  cases action with
  | text name =>
    have : e'.action = name := by simpa [Value.equal] using hp.1.2
    rw [this]
  | _ => simp [Value.equal] at hp

/-- A registered action has a name. -/
lemma action_ne_empty {spec : PathSpec} {target : Target} {verb : Value} {g : Registration}
    (h : r.prepare spec target action verb = .ok g) : g.action ≠ "" := by
  have ha := (prepare_eq_ok h).2.2.1
  intro hempty
  rw [hempty, Value.orElse] at ha
  split at ha
  · next ht =>
    rw [ha] at ht
    cases ht
  · exact absurd (Value.text.inj ha) (by decide)

lemma isMissing_eq_false (hn : query ≠ .value .null) (he : query ≠ .value (.text ""))
    (ha : action.truthy) : isMissing query action = false := by
  unfold isMissing
  rw [ha, Bool.not_true, Bool.false_or]
  split
  · exact absurd rfl hn
  · exact absurd rfl he
  · rfl

/-- The URL of an entry is its path, filled with what is given. -/
lemma urlOf_eq {segments : List Path.Segment} {named : OrderedMap Value}
    (hb : Path.Builds segments e.pattern.spec)
    (h : Path.AllGiven named (Path.pathPieces segments)) (positional : List Value) :
    urlOf e named positional =
      .ok (String.ofList (Path.filled (Path.quoted named) (Path.pathPieces segments))) := by
  generalize hs : e.pattern.spec = spec at hb
  rw [urlOf, hs]
  cases hb with
  | text hg =>
    have := Path.fill_given hg h positional
    simp [this]
  | alternatives hg =>
    have := Path.fill_given (hg segments List.mem_cons_self) h positional
    simp [this]

/-- A source matches a path where its pattern finds it. -/
lemma matchOf_eq {cs : List Char} {v : Verb} {s : String} (r : Router)
    (he : r.entry? v s = some e) (hs : stripQuery cs = cs) :
    r.matchOf (String.ofList cs) v s = e.pattern.matcher.search cs := by
  rw [matchOf, he, Option.bind_some, String.toList_ofList, hs]

end Router

namespace History

/-- What is found for a target and an action in the tables that calls lead to: the entry of its verb
and its source, with a pattern that its path is compiled to and an action with a name. -/
lemma registered_of_findRoute {config : RouterConfig} {calls : List Call} {query : Target}
    {action : Value} {e : RouteEntry}
    (hfind : (run config calls).router.findRoute query action = some e) :
    (run config calls).router.entry? e.verb e.pattern.source = some e ∧
      e.pattern.source ∈ (run config calls).router.sources ∧ e.kind ≠ .fallback ∧
      (run config calls).router.compile e.pattern.spec = .ok e.pattern ∧
      action = .text e.action ∧ e.action ≠ "" := by
  have hf := faithful_run config calls
  have hc := checked_run config calls
  generalize run config calls = h at *
  obtain ⟨v, s, hmem, hkind, haction⟩ := Router.findRoute_eq_some hfind
  have hs : s ∈ Log.sources h.log := by
    rw [← hf.keys_table v]
    exact List.mem_map.mpr ⟨_, hmem, rfl⟩
  have hget : h.router.entry? v s = some e := OrderedMap.get?_of_mem (hf.nodup_keys v) hmem
  obtain ⟨e', he', hd⟩ := hf.describes s hs v
  obtain rfl : e = e' := Option.some.inj (hget.symm.trans he')
  have hlog : Log.entryOf h.router.config h.log v s = some e := by
    rw [← hf.entry?_eq]
    exact hget
  obtain ⟨g, hg, hpattern, hname⟩ := Log.registered_of_entryOf hlog hkind
  obtain ⟨spec, target, act, verb, hprepared⟩ := hc g hg
  have hcompiled := (Router.prepare_eq_ok hprepared).2.2.2.2
  refine ⟨?_, ?_, hkind, ?_, haction, ?_⟩
  · rw [hd.verb_eq, hd.source_eq]
    exact hget
  · rw [hd.source_eq, Router.sources, hf.keys_table]
    exact hs
  · rw [hpattern, Pattern.compile_eq_ok hcompiled]
    exact hcompiled
  · rw [hname]
    exact Router.action_ne_empty hprepared

/-- After any calls, the URL built for an entry whose path is one of segments, or several of which
that is the first, with a text for each of its parameters, is known to the verb of the entry; and
unless an earlier source takes it, it is answered by the entry with exactly these texts. Only where
the first path is lost among the others, the source of the entry does not take it. -/
theorem dispatch_urlFor (config : RouterConfig) (calls : List Call) {query : Target}
    {action values : Value} {named : OrderedMap Value} {e : RouteEntry}
    {segments : List Path.Segment} (hnull : query ≠ .value .null)
    (hempty : query ≠ .value (.text ""))
    (hfind : (run config calls).router.findRoute query action = some e)
    (hb : Path.Builds segments e.pattern.spec)
    (hv : values.toMapping = .ok named) (hg : Path.AllGiven named (Path.pathPieces segments)) :
    ∃ url, (run config calls).router.urlFor query action (.named values) = .ok url ∧
      (Path.Loses (run config calls).router.config.caseSensitive.truthy e.pattern.spec →
        (run config calls).router.matchOf url e.verb e.pattern.source = none) ∧
      (¬ Path.Loses (run config calls).router.config.caseSensitive.truthy e.pattern.spec →
        (run config calls).router.dispatch (.text e.verb.name) (.text url) ≠ .ok .unmatched ∧
        ((∀ s ∈ (run config calls).router.sourcesBefore e.pattern.source,
            (run config calls).router.matchOf url e.verb s = none) →
          ∃ m, (run config calls).router.dispatch (.text e.verb.name) (.text url) =
              .ok (.matched m) ∧ m.entry = e ∧
            m.params = .ofPairs (Path.givenPairs named (Path.pathPieces segments)))) := by
  obtain ⟨hentry, hsource, hkind, hcompile, rfl, hname⟩ := registered_of_findRoute hfind
  have hn : (run config calls).router.sources.Nodup := (faithful_run config calls).nodup_keys .get
  have hk (v : Verb) := ((faithful_run config calls).keys_table v).trans
    ((faithful_run config calls).keys_table .get).symm
  generalize (run config calls).router = r at *
  have hstrip : stripQuery (Path.filled (Path.quoted named) (Path.pathPieces segments)) =
      Path.filled (Path.quoted named) (Path.pathPieces segments) :=
    Path.stripQuery_filled hb.isDefault
  have hurl := Router.urlOf_eq hb hg []
  have hmatch := r.matchOf_eq hentry hstrip
  refine ⟨String.ofList (Path.filled (Path.quoted named) (Path.pathPieces segments)), ?_,
    fun hl => ?_, fun hl => ?_⟩
  · have hmissing : Router.isMissing query (.text e.action) = false :=
      Router.isMissing_eq_false hnull hempty (by simpa [Value.truthy] using hname)
    rw [Router.urlFor, hmissing, if_neg Bool.false_ne_true, hfind, RouteArguments.unpack, hv]
    exact hurl
  · rw [hmatch]
    exact Path.search_filled_of_loses hb hcompile hl
  · obtain ⟨m, hm, hcross, hparams⟩ := Path.search_filled hb hcompile hl hg
    rw [hm] at hmatch
    refine ⟨Router.dispatch_ne_unmatched (by rwa [hk]) hmatch, fun hfirst => ?_⟩
    obtain ⟨later, hsplit⟩ := Router.sources_eq_append hsource
    have hfound := Router.found_of_first (hk _) hn hsplit hfirst hentry hmatch
    generalize Path.filled (Path.quoted named) (Path.pathPieces segments) = cs at *
    refine ⟨⟨e, decodeGroups m cs, paramsOf e.pattern.slots (decodeGroups m cs)⟩, ?_, rfl, hparams⟩
    rw [Router.dispatch_name, hfound, String.toList_ofList, hstrip, Option.any_some, hcross,
      if_neg Bool.false_ne_true, Router.outcome, if_neg hkind]

/-- The paths of which any may match. -/
def alternativesOf : PathSpec → Option (List String)
  | .alternatives paths => some paths
  | _ => none

lemma alternativesOf_eq_some {spec : PathSpec} {paths : List String} :
    alternativesOf spec = some paths ↔ spec = .alternatives paths := by
  cases spec <;> simp [alternativesOf]

def formattedCalls : List Call :=
  [.route (.text "/a/:id") shower .null .null,
    .route (.alternatives ["/users/:id?.:format", "/u"]) shower (.text "update") .null]

def formattedValues : OrderedMap Value := [("format", .text "json"), ("id", .text "a/é.b")]

theorem dispatch_urlFor_formatted : ∃ e url m,
    (run {} formattedCalls).router.findRoute shower (.text "update") = some e ∧
    (run {} formattedCalls).router.urlFor shower (.text "update")
      (.named (.mapping formattedValues)) = .ok url ∧
    (run {} formattedCalls).router.dispatch (.text e.verb.name) (.text url) = .ok (.matched m) ∧
    m.entry = e ∧ m.params = [("id", "a/é.b"), ("format", "json")] := by
  let segments : List Path.Segment := [⟨['u', 's', 'e', 'r', 's'], none, none⟩,
    ⟨[], some (⟨['i', 'd'], true⟩, []), some ⟨['f', 'o', 'r', 'm', 'a', 't'], false⟩⟩]
  let others : List (List Path.Segment) := [[⟨['u'], none, none⟩]]
  have hroute : ((run {} formattedCalls).router.findRoute shower (.text "update")).any (fun e =>
      alternativesOf e.pattern.spec == some ["/users/:id?.:format", "/u"] &&
      ((run {} formattedCalls).router.sourcesBefore e.pattern.source).all fun s =>
        ((run {} formattedCalls).router.matchOf "/users/a%2F%C3%A9.b.json" e.verb s).isNone) := by
    decide +kernel
  have hurl : (run {} formattedCalls).router.urlFor shower (.text "update")
      (.named (.mapping formattedValues)) = .ok "/users/a%2F%C3%A9.b.json" := by decide +kernel
  obtain ⟨e, he, hroute⟩ := (Option.any_eq_true _ _).mp hroute
  rw [Bool.and_eq_true, List.all_eq_true, beq_iff_eq] at hroute
  obtain ⟨hpaths, hbefore⟩ := hroute
  have hspec : e.pattern.spec =
      .alternatives ((segments :: others).map (String.ofList ∘ Path.writePath)) := by
    rw [alternativesOf_eq_some.mp hpaths]
    exact congrArg PathSpec.alternatives (by decide +kernel)
  have hlost (caseSensitive : Bool) : ¬ Path.Loses caseSensitive e.pattern.spec := by
    rw [hspec, Path.loses_alternatives]
    rintro ⟨-, u, c, ds, -, hfirst, -, -, hplane, -⟩
    have hlast : (Path.writePath segments).getLast? = some 't' := by decide
    rw [hfirst, List.getLast?_concat] at hlast
    obtain rfl := Option.some.inj hlast
    exact absurd hplane (by decide)
  have hgiven : Path.AllGiven formattedValues (Path.pathPieces segments) := by
    intro p hp
    have : p = ⟨true, false, ['i', 'd'], none, true, false⟩ ∨
        p = ⟨false, true, ['f', 'o', 'r', 'm', 'a', 't'], none, false, false⟩ := by
      simpa [segments, Path.pathPieces, Path.Segment.body, Path.slashed, Path.Hole.param] using hp
    rcases this with rfl | rfl
    · exact ⟨.text "a/é.b", rfl, rfl, by decide, by simp⟩
    · exact ⟨.text "json", rfl, rfl, by decide, by decide⟩
  obtain ⟨url, hbuilt, -, hmatched⟩ := dispatch_urlFor {} formattedCalls (by simp [shower])
    (by simp [shower]) he (hspec ▸ .alternatives (by decide))
    (show (Value.mapping formattedValues).toMapping = .ok formattedValues from rfl) hgiven
  obtain rfl := Except.ok.inj (hurl.symm.trans hbuilt)
  obtain ⟨m, hm, hentry, hparams⟩ :=
    (hmatched (hlost _)).2 fun s hs => Option.isNone_iff_eq_none.mp (hbefore s hs)
  refine ⟨e, _, m, he, hurl, hm, hentry, hparams.trans ?_⟩
  decide +kernel

def parameterCalls : List Call := [.route (.text "/:id") shower .null .null]

/-- A route to a controller that declares an empty name. -/
def namelessCalls : List Call :=
  [.route (.text "/x") (.controller { key := "x", name := some (.text ""), actions := ["show"] })
    .null .null]

/-- Two paths that differ in their last characters, of which the first is a capital letter beyond
the first plane. -/
def capitalCalls : List Call := [.route (.alternatives ["/𐐀", "/a"]) shower .null .null]

/-- Nothing is no text, no target has an empty name, and the capital letter is lost. -/
theorem not_dispatch_urlFor :
    (∃ e, (run {} parameterCalls).router.findRoute shower (.text "show") = some e ∧
      (run {} parameterCalls).router.sources = [e.pattern.source] ∧
      (run {} parameterCalls).router.urlFor shower (.text "show")
        (.named (.mapping [("id", .null)])) = .ok "/:id" ∧
      Value.null.display = "None" ∧
      ¬ ∃ m, (run {} parameterCalls).router.dispatch (.text e.verb.name) (.text "/:id") =
        .ok (.matched m) ∧ m.params = [("id", "None")]) ∧
    (∃ e, (run {} namelessCalls).router.findRoute (.value (.text "")) (.text "show") = some e ∧
      (run {} namelessCalls).router.urlFor (.value (.text "")) (.text "show")
        (.named (.mapping [])) = .error .missingArguments) ∧
    ∃ e, (run {} capitalCalls).router.findRoute shower (.text "show") = some e ∧
      (run {} capitalCalls).router.urlFor shower (.text "show") (.named (.mapping [])) =
        .ok "/𐐀" ∧
      (run {} capitalCalls).router.dispatch (.text e.verb.name) (.text "/𐐀") = .ok .unmatched := by
  refine ⟨?_, ?_, ?_⟩
  · have hroute : ((run {} parameterCalls).router.findRoute shower (.text "show")).any (fun e =>
        (run {} parameterCalls).router.sources == [e.pattern.source] &&
        match (run {} parameterCalls).router.dispatch (.text e.verb.name) (.text "/:id") with
        | .ok (.matched m) => m.params != [("id", "None")]
        | _ => true) := by decide +kernel
    obtain ⟨e, he, hroute⟩ := (Option.any_eq_true _ _).mp hroute
    rw [Bool.and_eq_true, beq_iff_eq] at hroute
    refine ⟨e, he, hroute.1, by decide +kernel, by decide +kernel, ?_⟩
    rintro ⟨m, hm, hp⟩
    have := hroute.2
    rw [hm] at this
    simp [hp] at this
  · have hroute : ((run {} namelessCalls).router.findRoute (.value (.text ""))
        (.text "show")).isSome := by decide +kernel
    obtain ⟨e, he⟩ := Option.isSome_iff_exists.mp hroute
    exact ⟨e, he, by decide +kernel⟩
  · have hroute : ((run {} capitalCalls).router.findRoute shower (.text "show")).any (fun e =>
        ((run {} capitalCalls).router.found e.verb "/𐐀").isNone) := by decide +kernel
    obtain ⟨e, he, hroute⟩ := (Option.any_eq_true _ _).mp hroute
    refine ⟨e, he, by decide +kernel, ?_⟩
    rw [Router.dispatch_name, Option.isNone_iff_eq_none.mp hroute]
    rfl

end History

end ActionRouting
