import ActionRouting.Proofs.Regex.Refilled
import ActionRouting.Proofs.Router.SoleRoute

/-! A regular expression alone in its router whose groups each take a run of characters between two
slashes. The URL that is built for it leads back to it, with the values of its groups. -/
namespace ActionRouting.Router

open Regex (Item Ending)

/-- A regular expression alone in its router has literal characters and groups for runs without
slashes, at most one between two slashes, where the start and the end count as slashes. Groups may
be given a value by name, and there is one positional value without a slash for each other group;
nothing is no value, and each value shows something. The URL that is built is answered by the
route, and each group took its value, as text. -/
theorem dispatch_urlFor_regex (config : RouterConfig) {flags : Regex.Flags} {items : List Item}
    {ending : Ending} {source : Regex} {r : Router} {target query : Target} {action verb : Value}
    {arguments : RouteArguments} {named : OrderedMap Value} {positional : List Value}
    (hi : ∀ i ∈ items, i.isSegmental) (hp : Regex.parted true items)
    (hc : Regex.compile flags (String.ofList (Regex.sourceOf items ending)) = .ok source)
    (hr : Router.route { config } (.regex source) target action verb = .ok r)
    (hq : target.meantBy query) (hnull : query ≠ .value .null) (hempty : query ≠ .value (.text ""))
    (ha : arguments.unpack = .ok (named, positional))
    (hcount : positional.length = items.countP (Regex.Template.isLeft named))
    (hvalues : ∀ v ∈ positional, v ≠ .null ∧ '/' ∉ v.display.toList)
    (hshown : ∀ v ∈ Regex.Template.taken named positional items, v.display ≠ "") :
    ∃ e url, r.entry? e.verb e.pattern.source = some e ∧ e.kind = .explicit ∧ e.target = target ∧
      readVerb verb = .ok e.verb ∧ action.orElse (.text "show") = .text e.action ∧
      r.urlFor query (.text e.action) arguments = .ok url ∧
      ∃ m, r.dispatch (.text e.verb.name) (.text url) = .ok (.matched m) ∧ m.entry = e ∧
        m.args = (Regex.Template.taken named positional items).map (some ·.display) := by
  obtain ⟨g, hprepared, rfl⟩ := route_eq_ok hr
  obtain ⟨hverb, htarget, haction, -, hcompiled⟩ := prepare_eq_ok hprepared
  have hpattern := (Except.ok.inj hcompiled).symm
  obtain ⟨-, -, hsource, -⟩ := Regex.compile_root hc
  let xs := (Regex.Template.taken named positional items).map Path.segment
  have hlen : xs.length = Regex.groupsOf items := by
    rw [List.length_map, Regex.Template.length_taken hcount]
  have hxs (x : List Char) (hx : x ∈ xs) : x ≠ [] ∧ ∀ c ∈ x, Text.Percent.isSegmentChar c := by
    obtain ⟨v, hv, rfl⟩ := List.mem_map.mp hx
    refine ⟨Text.Percent.encodeSegment_ne_nil ?_, fun c hc => (Text.Percent.mem_encodeSegment hc).1⟩
    simpa using hshown v hv
  have habsent (c : Char) (hc : Text.Percent.isSegmentChar c = false) (x : List Char)
      (hx : x ∈ xs) : c ∉ x := fun hm => by
    rw [(hxs x hx).2 c hm] at hc
    cases hc
  have hurl : urlOf (g.entry g.verb .explicit) named positional =
      .ok (String.ofList (Regex.spelled items xs)) := by
    have hseen : ∀ i ∈ items, i.isSeen := fun i hm => Regex.isSeen_of_isSegmental (hi i hm)
    rw [urlOf, Registration.entry, hpattern]
    simp only [hsource, String.toList_ofList]
    rw [Regex.Template.fill_sourceOf hseen, Regex.Template.fillings_eq_segments hcount
      (fun v hv => (hvalues v hv).1) fun v hv => (hvalues v hv).2]
  have hstrip : stripQuery (Regex.spelled items xs) = Regex.spelled items xs :=
    Path.stripQuery_of_not_mem (Regex.not_mem_spelled hi (by decide) (habsent '?' (by decide)))
      (Regex.not_mem_spelled hi (by decide) (habsent '#' (by decide)))
  obtain ⟨m, hm, hcross, htexts⟩ := Regex.search_spelled hi hp hc hlen
    (fun x hx => ⟨(hxs x hx).1, habsent '/' (by decide) x hx⟩)
    (Regex.not_mem_spelled hi (by decide) (habsent '\n' (by decide)))
  have hsearch : g.pattern.matcher.search (stripQuery (Regex.spelled items xs)) = some m := by
    rw [hpattern, hstrip]
    exact hm
  refine ⟨g.entry g.verb .explicit, String.ofList (Regex.spelled items xs),
    (get?_table_sole config g g.verb).trans (congrArg some (if_pos rfl)), rfl, htarget, hverb,
    haction, ?_, _, dispatch_sole hsearch hcross, rfl, ?_⟩
  · rw [Registration.entry, urlFor_sole (htarget ▸ hq) hnull hempty (action_ne_empty hprepared) ha,
      hurl]
  · rw [hstrip, decodeGroups, htexts]
    simp [xs, Path.segment, Text.Percent.decode_encodeSegment]

/-- Named and positional values, one for each group: slashes in a named value, an escaped dot, and a
slash that may be missing at the end. -/
theorem dispatch_urlFor_regex_mixed : ∃ source r url m,
    Regex.compile { ignoreCase := true } "^/x\\.([^/]+)/(?P<n>[^/]+)-z\\/([^/]+)\\/?$" =
      .ok source ∧
    Router.route { config := {} } (.regex source) History.shower .null .null = .ok r ∧
    r.urlFor History.shower (.text "show") (.mixed (.mapping [("n", .text "a/b-z")])
      (.list [.text "?", .text "x y"])) = .ok url ∧
    r.dispatch (.text "GET") (.text url) = .ok (.matched m) ∧
    m.args = [some "?", some "a/b-z", some "x y"] := by
  let named : OrderedMap Value := [("n", .text "a/b-z")]
  let positional : List Value := [.text "?", .text "x y"]
  let items : List Item :=
    [.char '/', .char 'x', .escaped '.', .group none Regex.segmentBody, .char '/',
      .group (some ['n']) Regex.segmentBody, .char '-', .char 'z', .escaped '/',
      .group none Regex.segmentBody]
  have htext : "^/x\\.([^/]+)/(?P<n>[^/]+)-z\\/([^/]+)\\/?$" =
      String.ofList (Regex.sourceOf items .escapedSlash) := by decide
  obtain ⟨source, hc, -⟩ := exists_of_any (x := Regex.compile { ignoreCase := true }
    "^/x\\.([^/]+)/(?P<n>[^/]+)-z\\/([^/]+)\\/?$") (p := fun _ => true) (by decide)
  obtain ⟨r, hr⟩ : ∃ r, Router.route { config := {} } (.regex source) History.shower .null .null =
      .ok r := ⟨_, rfl⟩
  obtain ⟨e, url, -, -, -, hverb, haction, hurl, m, hm, -, hargs⟩ :=
    dispatch_urlFor_regex {} (by decide) (by decide) (htext ▸ hc) hr
      (by decide : History.shower.meantBy History.shower) (by simp [History.shower])
      (by simp [History.shower]) (show (RouteArguments.mixed (.mapping named)
        (.list positional)).unpack = .ok (named, positional) from rfl) (by decide)
      (by simp [positional, Value.display]) (by decide)
  have hget : e.verb = .get := (Except.ok.inj hverb).symm
  have hshow : e.action = "show" := (Value.text.inj haction).symm
  rw [hshow] at hurl
  rw [hget] at hm
  exact ⟨source, r, url, m, hc, hr, hurl, hm, hargs.trans (by decide)⟩

/-- The URL that is built for a regular expression alone in its router leads back to it, but some
group took `args` in place of its value. -/
def LeadsAstray (text : String) (named : OrderedMap Value) (positional : List Value) (url : String)
    (args : List String) : Prop :=
  ∃ source r m, Regex.compile {} text = .ok source ∧
    Router.route { config := {} } (.regex source) History.shower .null .null = .ok r ∧
    r.urlFor History.shower (.text "show") (.mixed (.mapping named) (.list positional)) =
      .ok url ∧
    r.dispatch (.text "GET") (.text url) = .ok (.matched m) ∧ m.args = args.map some

lemma leadsAstray_of_any {text : String} {named : OrderedMap Value} {positional : List Value}
    {url : String} {args : List String}
    (h : (Regex.compile {} text).toOption.any fun source => leadsBack (.regex source)
      History.shower (.mixed (.mapping named) (.list positional)) url fun m =>
        decide (m.args = args.map some)) :
    LeadsAstray text named positional url args := by
  obtain ⟨source, hc, h⟩ := exists_of_any h
  obtain ⟨r, m, hr, hurl, hm, hargs⟩ := exists_of_leadsBack h
  exact ⟨source, r, m, hc, hr, hurl, hm, of_decide_eq_true hargs⟩

/-- Nothing is no value, neither by name nor by position. Two groups without a slash around them may
share out their text in another way. No target has an empty name. -/
theorem not_dispatch_urlFor_regex :
    Value.null.display = "None" ∧
    LeadsAstray "^/(?P<n>[^/]+)$" [("n", .null)] [] "/:0" [":0"] ∧
    LeadsAstray "^/([^/]+)$" [] [.null] "/:0" [":0"] ∧
    LeadsAstray "^([^/]+)-([^/]+)$" [] [.text "a", .text "b-c"] "a-b-c" ["a-b", "c"] ∧
    ∃ source r, Regex.compile {} "^/([^/]+)$" = .ok source ∧
      Router.route { config := {} } (.regex source) (.controller
        { key := "x", name := some (.text ""), actions := ["show"] }) .null .null = .ok r ∧
      r.urlFor (.value (.text "")) (.text "show") (.positional (.list [.text "x"])) =
        .error .missingArguments := by
  refine ⟨rfl, leadsAstray_of_any (by decide +kernel), leadsAstray_of_any (by decide +kernel),
    leadsAstray_of_any (by decide +kernel), ?_⟩
  obtain ⟨source, hc, h⟩ := exists_of_any (x := Regex.compile {} "^/([^/]+)$") (p := fun _ => true)
    (by decide +kernel)
  exact ⟨source, _, hc, rfl, rfl⟩

end ActionRouting.Router
