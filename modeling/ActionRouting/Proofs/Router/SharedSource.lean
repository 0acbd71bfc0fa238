import ActionRouting.Proofs.Router.DerivedHead

/-! Registrations that share a source. Each entry of the source keeps the matcher of the
registration that it comes from, and the source does not tell under which flags that was compiled.
So the entries match the same paths if and only if the registrations that they come from do, as they
do where all of them were compiled under the same flags. -/
namespace ActionRouting

/-- The path of a registration matches the path of a request. -/
def Registration.Matches (g : Registration) (path : String) : Prop :=
  (g.pattern.matcher.search (stripQuery path.toList)).isSome

namespace Log

/-- The registration that the entry for a verb and a source has its path from: the latest for both,
else the one that the entry is derived from, else the first for the source. -/
def origin? (log : List Registration) (v : Verb) (s : String) : Option Registration :=
  (latest? log v s).or ((derivation? log v s).or (log.find? (·.source = s)))

/-- The registrations that the entries of a source have their paths from. -/
def origins (log : List Registration) (s : String) : List Registration :=
  Verb.all.filterMap fun v => origin? log v s

variable {log : List Registration} {v : Verb} {s : String} {g : Registration}

lemma mem_origins : g ∈ origins log s ↔ ∃ v, origin? log v s = some g := by
  simp [origins, Verb.mem_all]

/-- An entry has the path of its origin. -/
lemma pattern_entryOf (config : RouterConfig) (log : List Registration) (v : Verb) (s : String) :
    (entryOf config log v s).map (·.pattern) = (origin? log v s).map (·.pattern) := by
  rw [entryOf, origin?]
  cases latest? log v s with
  | some g => rfl
  | none =>
    cases derivation? log v s with
    | some g => rfl
    | none =>
      cases log.find? (·.source = s) with
      | some g => rfl
      | none => rfl

/-- Where a log has a source, each of its verbs has an origin. -/
lemma exists_origin? (h : s ∈ sources log) (v : Verb) : ∃ g, origin? log v s = some g := by
  apply Option.isSome_iff_exists.mp
  obtain ⟨g, hg, hgs⟩ := (mem_sources log s).mp h
  have hfirst : (log.find? (·.source = s)).isSome :=
    List.find?_isSome.mpr ⟨g, hg, by simpa using hgs⟩
  rw [origin?, Option.isSome_or, Option.isSome_or, hfirst, Bool.or_true, Bool.or_true]

end Log

namespace Router

/-- The entries of a source are one route for a path: where one verb matches it, every verb does. -/
def OneRouteFor (r : Router) (path s : String) : Prop :=
  ∀ v u, (r.matchOf path v s).isSome → (r.matchOf path u s).isSome

end Router

namespace History

/-- An entry matches the paths that its origin does. -/
lemma isSome_matchOf_iff {h : History} (hf : h.Faithful) (path : String) (v : Verb) (s : String) :
    (h.router.matchOf path v s).isSome ↔ ∃ g, Log.origin? h.log v s = some g ∧ g.Matches path := by
  have hmatch : h.router.matchOf path v s =
      ((Log.origin? h.log v s).map (·.pattern)).bind
        fun p => p.matcher.search (stripQuery path.toList) := by
    rw [← Log.pattern_entryOf h.router.config, ← hf.entry?_eq, Router.matchOf, Option.bind_map]
    rfl
  rw [hmatch]
  cases Log.origin? h.log v s with
  | none => simp
  | some g => simp [Registration.Matches]

/-- The entries of a source are one route for a path if and only if the registrations that they come
from all match the path or all do not. -/
lemma oneRouteFor_iff_origins {h : History} (hf : h.Faithful) (path s : String) :
    h.router.OneRouteFor path s ↔
      ∀ g ∈ Log.origins h.log s, ∀ g' ∈ Log.origins h.log s, g.Matches path → g'.Matches path := by
  have hmatch := isSome_matchOf_iff hf path
  constructor
  · intro hr g hg g' hg' hm
    obtain ⟨v, hv⟩ := Log.mem_origins.mp hg
    obtain ⟨u, hu⟩ := Log.mem_origins.mp hg'
    obtain ⟨g'', hu', hm'⟩ := (hmatch u s).mp (hr v u ((hmatch v s).mpr ⟨g, hv, hm⟩))
    rw [hu] at hu'
    cases hu'
    exact hm'
  · intro hr v u hv
    obtain ⟨g, hg, hm⟩ := (hmatch v s).mp hv
    have hs : s ∈ Log.sources h.log := by
      obtain ⟨m, hm⟩ := Option.isSome_iff_exists.mp hv
      rw [← hf.keys_table v]
      exact Router.mem_keys_of_matchOf hm
    obtain ⟨g', hg'⟩ := Log.exists_origin? hs u
    refine (hmatch u s).mpr ⟨g', hg', hr g ?_ g' ?_ hm⟩
    · exact Log.mem_origins.mpr ⟨v, hg⟩
    · exact Log.mem_origins.mpr ⟨u, hg'⟩

/-- After any calls, the entries of a source are one route for a path if and only if the
registrations that they come from, one for each verb, all match the path or all do not. Where they
are, a path that the source matches for one verb is known to every verb. And they are, for every
path, where all these registrations were compiled from the source under the same flags. -/
theorem oneRouteFor_iff (config : RouterConfig) (calls : List Call) (s path : String) :
    ((run config calls).router.OneRouteFor path s ↔
      ∀ g ∈ Log.origins (run config calls).log s, ∀ g' ∈ Log.origins (run config calls).log s,
        g.Matches path → g'.Matches path) ∧
    ((run config calls).router.OneRouteFor path s →
      ∀ v, ((run config calls).router.matchOf path v s).isSome →
        ∀ u : Verb, (run config calls).router.dispatch (.text u.name) (.text path) ≠
          .ok .unmatched) ∧
    ((∃ flags, ∀ g ∈ Log.origins (run config calls).log s,
        Regex.compile flags s = .ok g.pattern.matcher) →
      (run config calls).router.OneRouteFor path s) := by
  have hf := faithful_run config calls
  have hone := oneRouteFor_iff_origins hf path s
  generalize run config calls = h at *
  refine ⟨hone, ?_, ?_⟩
  · intro hr v hv u
    obtain ⟨m, hm⟩ := Option.isSome_iff_exists.mp (hr v u hv)
    exact Router.dispatch_ne_unmatched (hf.nodup_keys u) hm
  · rintro ⟨flags, hflags⟩
    rw [hone]
    intro g hg g' hg' hm
    have hsame : g.pattern.matcher = g'.pattern.matcher :=
      Except.ok.inj ((hflags g hg).symm.trans (hflags g' hg'))
    rwa [Registration.Matches, ← hsame]

/-- A regular expression without flags, and a text of the same source, which ignores case. -/
def mixedCalls (r : Regex) : List Call :=
  [.route (.regex r) shower (.text "update") (.text "POST"), .route (.text "/x") shower .null .null]

/-- The capital letter is known to `GET`, and to no verb that has the other matcher. -/
example : ((Regex.compile {} "^/x/?$").toOption.any fun r =>
    let r := (run {} (mixedCalls r)).router
    (r.found .get "/X").isSome && (r.found .post "/X").isNone &&
      (r.found .delete "/X").isNone) := by
  decide +kernel

end History

end ActionRouting
