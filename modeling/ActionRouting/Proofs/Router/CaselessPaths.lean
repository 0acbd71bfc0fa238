import ActionRouting.Proofs.Path.Bare
import ActionRouting.Proofs.Regex.Caseless
import ActionRouting.Proofs.Regex.Uncrossed
import ActionRouting.Proofs.Router.OneMoreRoute

/-! Routers that ignore case. Where all routes are bare paths, two request paths that differ in the
case of ASCII letters alone are led to one entry, with the capture groups at the same places. -/
namespace ActionRouting

def PathSpec.isBare : PathSpec → Bool
  | .text s => Path.isBarePath s.toList
  | _ => false

/-- Two paths are answered alike: by one entry that matches both of them, with the capture groups at
the same places of both; by one entry that refuses, with the same verbs allowed; or not at all. -/
inductive Router.AnswersAlike (r : Router) (path path' : List Char) :
    Disposition → Disposition → Prop
  | matched {e : RouteEntry} {m : Regex.Match} (hm : e.pattern.matcher.search path = some m)
      (hm' : e.pattern.matcher.search path' = some m) :
      AnswersAlike r path path'
        (.matched ⟨e, decodeGroups m path, paramsOf e.pattern.slots (decodeGroups m path)⟩)
        (.matched ⟨e, decodeGroups m path', paramsOf e.pattern.slots (decodeGroups m path')⟩)
  | notAllowed {e : RouteEntry} {m : Regex.Match} (hk : e.kind = .fallback)
      (hm : e.pattern.matcher.search path = some m)
      (hm' : e.pattern.matcher.search path' = some m) :
      AnswersAlike r path path' (.notAllowed (r.allowedFor e.pattern.source))
        (.notAllowed (r.allowedFor e.pattern.source))
  | unmatched : AnswersAlike r path path' .unmatched .unmatched

namespace Path

variable {strict : Bool} {s : String} {path : List Char}

/-- A bare path that ignores case is found in a text in lower case as it is found in the text. -/
lemma search_barePattern_lowered :
    (barePattern false strict s).matcher.search (path.map Char.toLower) =
      (barePattern false strict s).matcher.search path := by
  have hnodes : ((Regex.Node.anchor .textStart) ::
      (bareNodesOf .unicode 0 (Fragment.scanner.pieces s.toList) ++
        endNodes .unicode strict)).all Regex.Node.ignoresCase := by
    have hbare : (bareNodesOf .unicode 0 (Fragment.scanner.pieces s.toList)).all
        Regex.Node.ignoresCase := by
      rw [← Regex.Node.ignoresCase_ofParts]
      exact Regex.Node.ignoresCase_of_isUniform (isUniform_bareNodesOf _ 0 _)
    rw [List.all_cons, List.all_append, hbare]
    cases strict <;> rfl
  rw [← Regex.Node.ignoresCase_ofParts] at hnodes
  exact Regex.search_lowered ⟨rfl, rfl, rfl, rfl⟩ hnodes path

lemma isCrossed_barePattern {caseSensitive : Bool} {m : Regex.Match}
    (h : (barePattern caseSensitive strict s).matcher.search path = some m) :
    m.isCrossed = false :=
  Regex.isCrossed_of_search (isLocal_bareNodesOf _ 0 _) h

end Path

/-- Lower case does not change where the query of a path begins. -/
lemma stripQuery_lowered (cs : List Char) :
    stripQuery (cs.map Char.toLower) = (stripQuery cs).map Char.toLower := by
  have hmark (c : Char) : (c.toLower != '?' && c.toLower != '#') = (c != '?' && c != '#') :=
    Text.apply_toLower (f := fun c => c != '?' && c != '#') (by decide +kernel) c
  rw [stripQuery, stripQuery, List.takeWhile_map]
  exact congrArg (fun p => (cs.takeWhile p).map Char.toLower) (funext hmark)

namespace History

variable {h : History} {path path' : String} {v : Verb}

/-- Every entry of a router that ignores case and has bare paths alone has the pattern of one. -/
lemma pattern_of_bare (hf : h.Faithful) (hc : h.Checked)
    (hcase : h.router.config.caseSensitive.truthy = false)
    (hbare : ∀ g ∈ h.log, g.pattern.spec.isBare) {s : String} (hs : s ∈ Log.sources h.log)
    (v : Verb) : ∃ e strict text, h.router.entry? v s = some e ∧
      e.pattern = Path.barePattern false strict text := by
  obtain ⟨e, he, hd⟩ := hf.describes s hs v
  obtain ⟨g, hg, hp⟩ := hd.pattern_mem
  obtain ⟨spec, target, action, verb, hprepare⟩ := hc g hg
  have hcompile := (Router.prepare_eq_ok hprepare).2.2.2.2
  rw [Router.compile, hcase] at hcompile
  have hspec := hbare g hg
  rw [Pattern.compile_eq_ok hcompile] at hspec
  cases spec with
  | text s =>
    refine ⟨e, h.router.config.strictSlashes.truthy, s, he, ?_⟩
    rw [hp]
    exact Except.ok.inj (hcompile.symm.trans (Path.compile_bare false _ hspec))
  | _ => cases hspec

/-- Paths that are one in lower case are led to one entry, with one match. -/
lemma found_caseless (hf : h.Faithful) (hc : h.Checked)
    (hcase : h.router.config.caseSensitive.truthy = false)
    (hbare : ∀ g ∈ h.log, g.pattern.spec.isBare)
    (hpath : path.toList.map Char.toLower = path'.toList.map Char.toLower) :
    h.router.found v path = h.router.found v path' := by
  have hstrip : (stripQuery path.toList).map Char.toLower =
      (stripQuery path'.toList).map Char.toLower := by
    rw [← stripQuery_lowered, hpath, stripQuery_lowered]
  rw [Router.found_eq_findSome? _ _ (hf.nodup_keys v),
    Router.found_eq_findSome? _ _ (hf.nodup_keys v), hf.keys_table]
  apply Router.findSome?_congr
  intro s hs
  obtain ⟨e, strict, text, he, hp⟩ := pattern_of_bare hf hc hcase hbare hs v
  rw [Router.matchOf, Router.matchOf, he, Option.bind_some, Option.bind_some, Option.bind_some,
    Option.bind_some, hp, ← Path.search_barePattern_lowered, hstrip,
    Path.search_barePattern_lowered]

lemma isCrossed_of_found (hf : h.Faithful) (hc : h.Checked)
    (hcase : h.router.config.caseSensitive.truthy = false)
    (hbare : ∀ g ∈ h.log, g.pattern.spec.isBare) {e : RouteEntry} {m : Regex.Match}
    (hfound : h.router.found v path = some (e, m)) : m.isCrossed = false := by
  obtain ⟨s, he, hm⟩ := Router.matchOf_of_found (hf.nodup_keys v) hfound
  have hs : s ∈ Log.sources h.log := by
    rw [← hf.keys_table v]
    exact Router.mem_keys_of_matchOf hm
  obtain ⟨e', strict, text, he', hp⟩ := pattern_of_bare hf hc hcase hbare hs v
  rw [Router.matchOf, he', Option.bind_some, hp] at hm
  exact Path.isCrossed_barePattern hm

/-- A router that ignores case and has bare paths alone answers two paths alike that differ in the
case of ASCII letters alone. -/
theorem dispatch_ignores_case (config : RouterConfig) (calls : List Call)
    (hcase : (run config calls).router.config.caseSensitive.truthy = false)
    (hbare : ∀ g ∈ (run config calls).log, g.pattern.spec.isBare) (verb : String)
    {path path' : String}
    (hpath : path.toList.map Char.toLower = path'.toList.map Char.toLower) :
    ∃ d d', (run config calls).router.dispatch (.text verb) (.text path) = .ok d ∧
      (run config calls).router.dispatch (.text verb) (.text path') = .ok d' ∧
      (run config calls).router.AnswersAlike (stripQuery path.toList) (stripQuery path'.toList)
        d d' := by
  have hf := faithful_run config calls
  have hc := checked_run config calls
  generalize run config calls = h at *
  cases hv : Verb.ofName? (Text.upper verb) with
  | none =>
    exact ⟨_, _, Router.dispatch_of_ofName?_none hv, Router.dispatch_of_ofName?_none hv,
      .unmatched⟩
  | some v =>
    have hsame := found_caseless (v := v) hf hc hcase hbare hpath
    cases hfound : h.router.found v path with
    | none =>
      rw [hfound] at hsame
      exact ⟨_, _, (Router.dispatch_eq_unmatched_iff hv).mpr hfound,
        (Router.dispatch_eq_unmatched_iff hv).mpr hsame.symm, .unmatched⟩
    | some p =>
      obtain ⟨e, m⟩ := p
      rw [hfound] at hsame
      have hcross := isCrossed_of_found hf hc hcase hbare hfound
      have hm := Router.search_of_found hfound
      have hm' := Router.search_of_found hsame.symm
      rw [Router.dispatch_of_found hv hfound hcross, Router.dispatch_of_found hv hsame.symm hcross]
      by_cases hk : e.kind = .fallback
      · rw [if_pos hk, if_pos hk]
        exact ⟨_, _, rfl, rfl, .notAllowed hk hm hm'⟩
      · rw [if_neg hk, if_neg hk]
        exact ⟨_, _, rfl, rfl, .matched hm hm'⟩

/-- Routes with parameters, dots and stars, of which one has letters beyond ASCII. -/
def bareCalls : List Call :=
  [.route (.text "/Files/:name.:format?") shower .null .null,
    .route (.text "/straße/K/*") shower (.text "update") (.text "put")]

theorem dispatch_ignores_case_files :
    (run {} bareCalls).router.config.caseSensitive.truthy = false ∧
    (∀ g ∈ (run {} bareCalls).log, g.pattern.spec.isBare) ∧
    "/fileS/Tar.GZ?x".toList.map Char.toLower = "/FILES/tar.gz?X".toList.map Char.toLower ∧
    ∃ d d', (run {} bareCalls).router.dispatch (.text "get") (.text "/fileS/Tar.GZ?x") = .ok d ∧
      (run {} bareCalls).router.dispatch (.text "get") (.text "/FILES/tar.gz?X") = .ok d' ∧
      (run {} bareCalls).router.AnswersAlike "/fileS/Tar.GZ".toList "/FILES/tar.gz".toList
        d d' := by
  have hcase : (run {} bareCalls).router.config.caseSensitive.truthy = false := by decide +kernel
  have hbare : (run {} bareCalls).log.all (·.pattern.spec.isBare) = true := by decide +kernel
  have hbare := List.all_eq_true.mp hbare
  exact ⟨hcase, hbare, by decide, dispatch_ignores_case {} bareCalls hcase hbare "get" (by decide)⟩

end History

end ActionRouting
