import ActionRouting.Proofs.Router.Tables
import ActionRouting.Router.Dispatch

/-! The verbs agree about every path. As long as routes are written as texts, the matchers of one
source are the same for all verbs, so one source decides for all of them, or none does. -/
namespace ActionRouting

def PathSpec.isTextual : PathSpec → Bool
  | .text _ => true
  | .alternatives _ => true
  | _ => false

namespace Pattern

lemma compile_eq_ok {caseSensitive strict : Bool} {spec : PathSpec} {p : Pattern}
    (h : compile caseSensitive strict spec = .ok p) : p.spec = spec := by
  cases spec with
  | regex r => cases h; rfl
  | other v => cases h
  | _ =>
    simp only [compile, ofText, bind, Except.bind] at h
    split at h
    · cases h
    · split at h
      · cases h; rfl
      · cases h

/-- The matcher of a path that is written as text is the regular expression of its source. -/
lemma matcher_of_compile {caseSensitive strict : Bool} {spec : PathSpec} {p : Pattern}
    (h : compile caseSensitive strict spec = .ok p) (ht : p.spec.isTextual) :
    Regex.compile { ignoreCase := !caseSensitive } p.source = .ok p.matcher := by
  rw [compile_eq_ok h] at ht
  cases spec with
  | regex r => cases ht
  | other v => cases ht
  | _ =>
    simp only [compile, ofText, bind, Except.bind] at h
    split at h
    · cases h
    · split at h
      · next hm => cases h; exact hm
      · cases h

end Pattern

namespace Router

variable (r : Router) (path : String)

/-- The match that the entry of a verb and a source finds in a path. -/
def matchOf (v : Verb) (s : String) : Option Regex.Match :=
  (r.entry? v s).bind fun e => e.pattern.matcher.search (stripQuery path.toList)

/-- A source decides about a path with a match: it is the first that has one, for every verb. -/
structure Decides (s : String) (m : Regex.Match) : Prop where
  first : ∃ earlier later, r.sources = earlier ++ s :: later ∧
    ∀ t ∈ earlier, ∀ v, r.matchOf path v t = none
  found : ∀ v, r.matchOf path v s = some m

/-- All verbs agree about a path. Either no verb knows it; or one source decides, its entry for each
verb answers, unless it is a fallback, and the fallbacks name the same verbs: those that were
registered, in order. -/
def Agrees : Prop :=
  (∀ v : Verb, r.dispatch (.text v.name) (.text path) = .ok .unmatched) ∨
  ∃! s, (∃ m, r.Decides path s m) ∧ ∃ allowed : List Verb,
    (allowed ≠ [] ∧ allowed.Sublist Verb.all ∧
      ∀ u : Verb, u ∈ allowed ↔ ∃ m, r.dispatch (.text u.name) (.text path) = .ok (.matched m) ∧
        m.entry.kind ≠ .implicit) ∧
    ∀ v : Verb, ∃ e, r.entry? v s = some e ∧
      if e.kind = .fallback then
        r.dispatch (.text v.name) (.text path) = .ok (.notAllowed allowed)
      else ∃ m, r.dispatch (.text v.name) (.text path) = .ok (.matched m) ∧ m.entry = e

/-- The match that decides about a path has a crossed capture group, and no verb gets an answer. -/
def Crosses : Prop :=
  ∃ s m, r.Decides path s m ∧ m.isCrossed ∧
    ∀ v : Verb, r.dispatch (.text v.name) (.text path) = .error .crossedGroup

lemma ofName?_upper_name (v : Verb) : Verb.ofName? (Text.upper v.name) = some v := by
  cases v <;> decide

lemma dispatch_name (v : Verb) : r.dispatch (.text v.name) (.text path) =
    if (r.found v path).any (·.2.isCrossed) then .error .crossedGroup
    else .ok (r.outcome (stripQuery path.toList) (r.found v path)) := by
  simp only [dispatch, ofName?_upper_name]

lemma findSome?_congr {α β : Type} {f g : α → Option β} {l : List α} (h : ∀ a ∈ l, f a = g a) :
    l.findSome? f = l.findSome? g := by
  induction l with
  | nil => rfl
  | cons a l ih =>
    rw [List.findSome?_cons, List.findSome?_cons, h a List.mem_cons_self,
      ih fun b hb => h b (List.mem_cons_of_mem a hb)]

/-- The first match of a table without repeated keys is the first match of its keys. -/
lemma firstMatch_eq_findSome? (cs : List Char) (t : Table) (h : (OrderedMap.keys t).Nodup) :
    firstMatch cs t = (OrderedMap.keys t).findSome? fun s =>
      (OrderedMap.get? s t).bind fun e => (e.pattern.matcher.search cs).map (e, ·) := by
  induction t with
  | nil => rfl
  | cons p t ih =>
    obtain ⟨k, e⟩ := p
    obtain ⟨hk, ht⟩ := List.nodup_cons.mp h
    have hrest : (OrderedMap.keys t).findSome? (fun s =>
        (OrderedMap.get? s ((k, e) :: t)).bind fun e =>
          (e.pattern.matcher.search cs).map (e, ·)) = firstMatch cs t := by
      rw [ih ht]
      apply findSome?_congr
      intro s hs
      have hne : k ≠ s := fun he => hk (he ▸ hs)
      simp [OrderedMap.get?, hne]
    rw [firstMatch, show OrderedMap.keys ((k, e) :: t) = k :: OrderedMap.keys t from rfl,
      List.findSome?_cons, hrest]
    cases he : e.pattern.matcher.search cs <;> simp [OrderedMap.get?, he]

/-- The first match for a verb, sought among the sources. -/
lemma found_eq_findSome? {v : Verb} (h : (OrderedMap.keys (r.table v)).Nodup) :
    r.found v path = (OrderedMap.keys (r.table v)).findSome? fun s =>
      (r.entry? v s).bind fun e => (r.matchOf path v s).map (e, ·) := by
  rw [found, firstMatch_eq_findSome? _ _ h]
  apply findSome?_congr
  intro s hs
  simp only [matchOf, entry?]
  cases OrderedMap.get? s (r.table v) <;> rfl

variable {r path}

/-- A verb is led to its entry for the first source that has a match. -/
lemma found_of_first {v : Verb} {earlier later : List String} {s : String} {e : RouteEntry}
    {m : Regex.Match} (hk : OrderedMap.keys (r.table v) = r.sources) (hn : r.sources.Nodup)
    (hs : r.sources = earlier ++ s :: later) (hfirst : ∀ t ∈ earlier, r.matchOf path v t = none)
    (he : r.entry? v s = some e) (hm : r.matchOf path v s = some m) :
    r.found v path = some (e, m) := by
  rw [found_eq_findSome? _ _ (by rwa [hk]), hk, hs, List.findSome?_eq_some_iff]
  refine ⟨earlier, s, later, rfl, ?_, ?_⟩
  · simp [he, hm]
  · intro t ht
    simp [hfirst t ht]

/-- Where one source decides, every verb is led to its entry for that source. -/
lemma Decides.found_eq {s : String} {m : Regex.Match} (hd : r.Decides path s m)
    (hk : ∀ v, OrderedMap.keys (r.table v) = r.sources) (hn : r.sources.Nodup) {v : Verb}
    {e : RouteEntry} (he : r.entry? v s = some e) : r.found v path = some (e, m) := by
  obtain ⟨earlier, later, hs, hfirst⟩ := hd.first
  exact found_of_first (hk v) hn hs (fun t ht => hfirst t ht v) he (hd.found v)

/-- What a verb answers where one source decides with a whole match. -/
lemma Decides.dispatch_eq {s : String} {m : Regex.Match} (hd : r.Decides path s m)
    (hk : ∀ v, OrderedMap.keys (r.table v) = r.sources) (hn : r.sources.Nodup)
    (hm : m.isCrossed = false) {v : Verb} {e : RouteEntry} (he : r.entry? v s = some e)
    (hs : e.pattern.source = s) : r.dispatch (.text v.name) (.text path) =
      if e.kind = .fallback then .ok (.notAllowed (r.allowedFor s))
      else
        let args := decodeGroups m (stripQuery path.toList)
        .ok (.matched ⟨e, args, paramsOf e.pattern.slots args⟩) := by
  rw [dispatch_name, hd.found_eq hk hn he]
  simp only [Option.any_some, hm, Bool.false_eq_true, if_false, outcome, hs]
  split <;> rfl

/-- Only one source decides about a path. -/
lemma Decides.unique {s t : String} {m n : Regex.Match} (hs : r.Decides path s m)
    (ht : r.Decides path t n) : s = t := by
  obtain ⟨earlier, later, hse, hfirst⟩ := hs.first
  obtain ⟨earlier', later', hte, hfirst'⟩ := ht.first
  by_contra hne
  -- The two beginnings are comparable, so one of the two sources lies in the other beginning.
  rcases List.append_eq_append_iff.mp (hse.symm.trans hte) with ⟨mid, he, hm⟩ | ⟨mid, he, hm⟩
  · cases mid with
    | nil => simp only [List.nil_append, List.cons.injEq] at hm; exact hne hm.1
    | cons a mid =>
      obtain ⟨rfl, -⟩ := List.cons.inj hm
      have := hfirst' s (by simp [he]) .get
      simp [hs.found .get] at this
  · cases mid with
    | nil => simp only [List.nil_append, List.cons.injEq] at hm; exact hne hm.1.symm
    | cons a mid =>
      obtain ⟨rfl, -⟩ := List.cons.inj hm
      have := hfirst t (by simp [he]) .get
      simp [ht.found .get] at this

/-- The verbs that a source was registered for are those whose dispatch reaches an entry of their
own. -/
lemma Decides.mem_allowedFor {s : String} {m : Regex.Match} (hd : r.Decides path s m)
    (hk : ∀ v, OrderedMap.keys (r.table v) = r.sources) (hn : r.sources.Nodup)
    (hm : m.isCrossed = false)
    (he : ∀ v, ∃ e, r.entry? v s = some e ∧ e.pattern.source = s) (u : Verb) :
    u ∈ r.allowedFor s ↔ ∃ m, r.dispatch (.text u.name) (.text path) = .ok (.matched m) ∧
      m.entry.kind ≠ .implicit := by
  obtain ⟨e, heu, hes⟩ := he u
  have hmem : u ∈ r.allowedFor s ↔ e.kind = .explicit := by
    simp [allowedFor, Verb.mem_all, heu]
  rw [hmem, hd.dispatch_eq hk hn hm heu hes]
  cases hkind : e.kind <;> simp [hkind]

/-- Where one source decides with a whole match, the verbs agree. -/
lemma Decides.agrees {s : String} {m : Regex.Match} (hd : r.Decides path s m)
    (hk : ∀ v, OrderedMap.keys (r.table v) = r.sources) (hn : r.sources.Nodup)
    (hm : m.isCrossed = false)
    (he : ∀ v, ∃ e, r.entry? v s = some e ∧ e.pattern.source = s)
    (hx : ∃ v e, r.entry? v s = some e ∧ e.kind = .explicit) : r.Agrees path := by
  refine .inr ⟨s, ⟨⟨m, hd⟩, r.allowedFor s, ⟨?_, List.filter_sublist, ?_⟩, ?_⟩, ?_⟩
  · obtain ⟨v, e, hev, hkind⟩ := hx
    exact List.ne_nil_of_mem (a := v) (by simp [allowedFor, Verb.mem_all, hev, hkind])
  · exact hd.mem_allowedFor hk hn hm he
  · intro v
    obtain ⟨e, hev, hes⟩ := he v
    refine ⟨e, hev, ?_⟩
    rw [hd.dispatch_eq hk hn hm hev hes]
    by_cases hkind : e.kind = .fallback
    · simp [hkind]
    · simp only [hkind, if_false]
      exact ⟨_, rfl, rfl⟩
  · rintro t ⟨⟨n, ht⟩, -⟩
    exact ht.unique hd

lemma mem_keys_of_matchOf {v : Verb} {s : String} {m : Regex.Match}
    (hm : r.matchOf path v s = some m) : s ∈ OrderedMap.keys (r.table v) := by
  by_contra hs
  have he : r.entry? v s = none := OrderedMap.get?_eq_none_iff.mpr hs
  rw [matchOf, he] at hm
  cases hm

/-- What a verb is led to stands under a source, and its pattern matches the path. -/
lemma matchOf_of_found {v : Verb} (hn : (OrderedMap.keys (r.table v)).Nodup) {e : RouteEntry}
    {m : Regex.Match} (h : r.found v path = some (e, m)) :
    ∃ s, r.entry? v s = some e ∧ r.matchOf path v s = some m := by
  rw [found_eq_findSome? _ _ hn] at h
  obtain ⟨s, -, hs⟩ := List.exists_of_findSome?_eq_some h
  obtain ⟨e', he, hm⟩ := Option.bind_eq_some_iff.mp hs
  obtain ⟨m', hm', hp⟩ := Option.map_eq_some_iff.mp hm
  cases hp
  exact ⟨s, he, hm'⟩

/-- A verb is led to some entry where one of its sources matches. -/
lemma found_ne_none {v : Verb} (hn : (OrderedMap.keys (r.table v)).Nodup) {s : String}
    {m : Regex.Match} (hm : r.matchOf path v s = some m) : r.found v path ≠ none := by
  intro hnone
  rw [found_eq_findSome? _ _ hn, List.findSome?_eq_none_iff] at hnone
  obtain ⟨e, he, -⟩ := Option.bind_eq_some_iff.mp hm
  have := hnone s (mem_keys_of_matchOf hm)
  simp [he, hm] at this

/-- A path that a source matches is known. -/
lemma dispatch_ne_unmatched {v : Verb} {s : String} {m : Regex.Match}
    (hn : (OrderedMap.keys (r.table v)).Nodup) (hm : r.matchOf path v s = some m) :
    r.dispatch (.text v.name) (.text path) ≠ .ok .unmatched := by
  obtain ⟨⟨e, m'⟩, hf⟩ := Option.ne_none_iff_exists'.mp (found_ne_none hn hm)
  rw [dispatch_name, hf, outcome]
  split
  · exact fun h => by cases h
  · split <;> exact fun h => by cases h

end Router

/-- Registrations for one source have one matcher. -/
def Log.OneMatcher (log : List Registration) : Prop :=
  ∀ g ∈ log, ∀ g' ∈ log, g.source = g'.source → g.pattern.matcher = g'.pattern.matcher

namespace History

/-- Registrations of texts for one source have one matcher. -/
lemma Checked.oneMatcher {h : History} (hc : h.Checked)
    (ht : ∀ g ∈ h.log, g.pattern.spec.isTextual) : Log.OneMatcher h.log := by
  have compiled : ∀ g ∈ h.log, Regex.compile
      { ignoreCase := !h.router.config.caseSensitive.truthy } g.source = .ok g.pattern.matcher := by
    intro g hg
    obtain ⟨spec, target, action, verb, hp⟩ := hc g hg
    exact Pattern.matcher_of_compile (Router.prepare_eq_ok hp).2.2.2.2 (ht g hg)
  intro g hg g' hg' hs
  have hm := compiled g hg
  rw [hs, compiled g' hg'] at hm
  exact (Except.ok.inj hm).symm

/-- Entries under one source that were written as text have one matcher. -/
lemma matchOf_eq {h : History} (hf : h.Faithful) (hc : h.Checked)
    (ht : ∀ g ∈ h.log, g.pattern.spec.isTextual) (path : String) (v : Verb) (s : String) :
    h.router.matchOf path v s = h.router.matchOf path .get s := by
  by_cases hs : s ∈ Log.sources h.log
  · have written (v : Verb) : ∃ e, h.router.entry? v s = some e ∧
        ∃ g ∈ h.log, g.source = s ∧ e.pattern = g.pattern := by
      obtain ⟨e, he, hd⟩ := hf.describes s hs v
      obtain ⟨g, hg, hp⟩ := hd.pattern_mem
      exact ⟨e, he, g, hg, by rw [Registration.source, ← hp, hd.source_eq], hp⟩
    obtain ⟨e, he, g, hg, hgs, hp⟩ := written v
    obtain ⟨e', he', g', hg', hgs', hp'⟩ := written .get
    have hm : e.pattern.matcher = e'.pattern.matcher := by
      rw [hp, hp']
      exact hc.oneMatcher ht g hg g' hg' (hgs.trans hgs'.symm)
    simp [Router.matchOf, he, he', hm]
  · have hn (v : Verb) : h.router.entry? v s = none := by
      rw [Router.entry?, OrderedMap.get?_eq_none_iff, hf.keys_table]
      exact hs
    simp [Router.matchOf, hn]

/-- After any calls that register texts, the verbs agree about every path, except that a path whose
deciding match has a crossed capture group is answered for no verb. -/
theorem agrees_or_crosses (config : RouterConfig) (calls : List Call) (path : String)
    (ht : ∀ g ∈ (run config calls).log, g.pattern.spec.isTextual) :
    (run config calls).router.Agrees path ∨ (run config calls).router.Crosses path := by
  have hf := faithful_run config calls
  have hm := matchOf_eq hf (checked_run config calls) ht path
  generalize run config calls = h at *
  have hs : h.router.sources = Log.sources h.log := hf.keys_table .get
  have hk (v : Verb) : OrderedMap.keys (h.router.table v) = h.router.sources :=
    (hf.keys_table v).trans hs.symm
  have hn : h.router.sources.Nodup := hf.nodup_keys .get
  have hentries := hf.describes
  have hexplicit := hf.exists_explicit
  rw [← hs] at hentries hexplicit
  cases hfirst : h.router.sources.findSome? (h.router.matchOf path .get) with
  | none =>
    refine .inl (.inl fun v => ?_)
    have hnone : h.router.found v path = none := by
      rw [Router.found_eq_findSome? _ _ (by rwa [hk]), hk, List.findSome?_eq_none_iff]
      intro s hsm
      simp [hm v s, List.findSome?_eq_none_iff.mp hfirst s hsm]
    rw [Router.dispatch_name, hnone]
    rfl
  | some m =>
    obtain ⟨earlier, s, later, hsplit, hfound, hnone⟩ := List.findSome?_eq_some_iff.mp hfirst
    have hd : h.router.Decides path s m :=
      ⟨⟨earlier, later, hsplit, fun t hte v => (hm v t).trans (hnone t hte)⟩,
        fun v => (hm v s).trans hfound⟩
    have hmem : s ∈ h.router.sources := by simp [hsplit]
    have he (v : Verb) : ∃ e, h.router.entry? v s = some e ∧ e.pattern.source = s := by
      obtain ⟨e, hev, hdesc⟩ := hentries s hmem v
      exact ⟨e, hev, hdesc.source_eq⟩
    cases hcross : m.isCrossed with
    | false => exact .inl (hd.agrees hk hn hcross he (hexplicit s hmem))
    | true =>
      refine .inr ⟨s, m, hd, hcross, fun v => ?_⟩
      obtain ⟨e, hev, -⟩ := he v
      rw [Router.dispatch_name, hd.found_eq hk hn hev]
      simp [hcross]

def shower : Target := .controller { key := "shower", actions := ["show", "update"] }

def pages : Target := .controller { key := "pages", actions := ["list", "show"] }

/-- Overlapping paths for several verbs, one of them registered again. -/
def overlappingCalls : List Call :=
  [.route (.text "/a/:id") shower .null .null, .reset, .route (.text "/:x") shower .null .null,
    .route (.alternatives ["/b", "/c"]) shower (.text "update") (.text "put"),
    .route (.text "/:x") shower (.text "update") (.text "patch"),
    .route (.text "/(") shower .null .null, .route (.text "/:x") shower .null .null]

theorem agrees_overlapping : (∀ g ∈ (run {} overlappingCalls).log, g.pattern.spec.isTextual) ∧
    ((run {} overlappingCalls).router.Agrees "/b" ∨
      (run {} overlappingCalls).router.Crosses "/b") := by
  have ht : (run {} overlappingCalls).log.all (·.pattern.spec.isTextual) = true := by
    decide +kernel
  have h := List.all_eq_true.mp ht
  exact ⟨h, agrees_or_crosses {} overlappingCalls "/b" h⟩

/-- One route whose capture groups are left in a possessive repetition. -/
def possessiveCalls : List Call := [.route (.text "/((x)|y|z)++") shower .null .null]

theorem not_agrees_possessive :
    (∀ g ∈ (run {} possessiveCalls).log, g.pattern.spec.isTextual) ∧
      ¬ (run {} possessiveCalls).router.Agrees "/xyz" := by
  have ht : (run {} possessiveCalls).log.all (·.pattern.spec.isTextual) = true := by
    decide +kernel
  have he : ((run {} possessiveCalls).router.dispatch (.text Verb.get.name)
      (.text "/xyz")).toOption.isNone = true := by decide +kernel
  refine ⟨List.all_eq_true.mp ht, ?_⟩
  rintro (h | ⟨s, ⟨-, allowed, -, h⟩, -⟩)
  · rw [h .get] at he
    cases he
  · obtain ⟨e, -, h⟩ := h .get
    split at h
    · rw [h] at he
      cases he
    · obtain ⟨m, h, -⟩ := h
      rw [h] at he
      cases he

end History

end ActionRouting
