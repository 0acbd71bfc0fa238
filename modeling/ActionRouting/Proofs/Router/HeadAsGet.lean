import Mathlib.Data.Option.Basic
import ActionRouting.Proofs.Router.DerivedHead

/-! When `HEAD` is served as `GET` is. As long as routes are written as texts, none of them is
registered for `HEAD`, and `GET` is registered once at most for a source, the two verbs lead every
path to entries that serve the same. -/
namespace ActionRouting

/-- An entry serves what another serves, and is a fallback where the other is. -/
structure RouteEntry.StandsFor (e e' : RouteEntry) : Prop extends e.ServesLike e' where
  fallback_iff : e.kind = .fallback ↔ e'.kind = .fallback

/-- Two outcomes call for the same: one handler with the same parameters, the refusal of a verb with
the same verbs allowed, or nothing. -/
inductive Disposition.Alike : Disposition → Disposition → Prop
  | matched {m m' : Matched} (handler : m.entry.handler = m'.entry.handler)
      (args : m.args = m'.args) (params : m.params = m'.params) : Alike (.matched m) (.matched m')
  | notAllowed (allowed : List Verb) : Alike (.notAllowed allowed) (.notAllowed allowed)
  | unmatched : Alike .unmatched .unmatched

namespace Log

variable {log : List Registration} {s : String}

/-- The log registers no route for `HEAD`, and `GET` once at most for each source. -/
structure LeavesHead (log : List Registration) : Prop where
  no_head : ∀ g ∈ log, g.verb ≠ .head
  get_once : ∀ s, log.countP (Registration.isFor .get s) ≤ 1

/-- What is registered once at most is registered last where it is registered first. -/
lemma latest?_eq_first? {v : Verb} (h : log.countP (Registration.isFor v s) ≤ 1) :
    latest? log v s = first? log v s := by
  rw [List.countP_eq_length_filter] at h
  rw [latest?, first?, ← List.head?_filter, ← List.head?_filter, List.filter_reverse]
  generalize log.filter (Registration.isFor v s) = found at *
  cases found with
  | nil => rfl
  | cons g found =>
    have hnil : found = [] := List.length_eq_zero_iff.mp (Nat.le_zero.mp (Nat.le_of_succ_le_succ h))
    rw [hnil]
    rfl

/-- The entry of `HEAD` stands for that of `GET`: it is derived from it, or both are fallbacks. -/
lemma standsFor_entryOf_head (config : RouterConfig) (h : LeavesHead log) (hs : s ∈ sources log) :
    ∃ e e', entryOf config log .head s = some e ∧ entryOf config log .get s = some e' ∧
      e.StandsFor e' := by
  have hlatest : latest? log .head s = none := by
    rw [← Option.not_isSome_iff_eq_none, latest?_isSome]
    rintro ⟨g, hg, hv, -⟩
    exact h.no_head g hg hv
  have hderived : derivation? log .head s = first? log .get s := if_pos rfl
  have hplain : derivation? log .get s = none := if_neg nofun
  rw [entryOf, entryOf, hlatest, hderived, hplain, latest?_eq_first? (h.get_once s)]
  cases first? log .get s with
  | some g => exact ⟨_, _, rfl, rfl, ⟨rfl, rfl, rfl, rfl⟩, by simp [Registration.entry]⟩
  | none =>
    obtain ⟨g, hg, hgs⟩ := (mem_sources log s).mp hs
    have hfirst : (log.find? (·.source = s)).isSome :=
      List.find?_isSome.mpr ⟨g, hg, by simpa using hgs⟩
    obtain ⟨f, hf⟩ := Option.isSome_iff_exists.mp hfirst
    rw [hf]
    exact ⟨_, _, rfl, rfl, ⟨rfl, rfl, rfl, rfl⟩, by simp [RouteEntry.fallback]⟩

end Log

/-- Two searches through one list find related items where each step does. -/
lemma rel_findSome? {α β γ : Type} {R : β → γ → Prop} {f : α → Option β} {g : α → Option γ}
    {l : List α} (h : ∀ a ∈ l, Option.Rel R (f a) (g a)) :
    Option.Rel R (l.findSome? f) (l.findSome? g) := by
  induction l with
  | nil => exact .none
  | cons a l ih =>
    have ha := h a List.mem_cons_self
    rw [List.findSome?_cons, List.findSome?_cons]
    generalize f a = b at *
    generalize g a = c at *
    cases ha with
    | none => exact ih fun b hb => h b (List.mem_cons_of_mem a hb)
    | some hbc => exact .some hbc

namespace Router

variable {r : Router}

/-- Entries that stand for one another give outcomes that call for the same. -/
lemma alike_outcome {path : List Char} {found found' : Option (RouteEntry × Regex.Match)}
    (h : Option.Rel (fun p q => p.1.StandsFor q.1 ∧ p.2 = q.2) found found') :
    (r.outcome path found).Alike (r.outcome path found') := by
  cases h with
  | none => exact .unmatched
  | @some p q h =>
    obtain ⟨e, m⟩ := p
    obtain ⟨e', m'⟩ := q
    obtain ⟨he, rfl⟩ := h
    rw [outcome, outcome]
    by_cases hk : e.kind = .fallback
    · rw [if_pos hk, if_pos (he.fallback_iff.mp hk), he.pattern_eq]
      exact .notAllowed _
    · rw [if_neg hk, if_neg fun h => hk (he.fallback_iff.mpr h), he.pattern_eq]
      exact .matched he.handler_eq rfl rfl

end Router

namespace History

variable {h : History}

/-- `HEAD` is led to an entry that stands for the one that `GET` is led to, with the same match. -/
lemma standsFor_found (hf : h.Faithful) (hc : h.Checked)
    (ht : ∀ g ∈ h.log, g.pattern.spec.isTextual) (hl : Log.LeavesHead h.log) (path : String) :
    Option.Rel (fun p q => p.1.StandsFor q.1 ∧ p.2 = q.2) (h.router.found .head path)
      (h.router.found .get path) := by
  rw [Router.found_eq_findSome? _ _ (hf.nodup_keys .head),
    Router.found_eq_findSome? _ _ (hf.nodup_keys .get), hf.keys_table, hf.keys_table]
  apply rel_findSome?
  intro s hs
  obtain ⟨e, e', he, he', hstands⟩ := Log.standsFor_entryOf_head h.router.config hl hs
  rw [hf.entry?_eq, hf.entry?_eq, he, he', matchOf_eq hf hc ht path .head s]
  cases h.router.matchOf path .get s with
  | none => exact .none
  | some m => exact .some ⟨hstands, rfl⟩

/-- Where `GET` has an outcome, `HEAD` has one that calls for the same. -/
theorem alike_dispatch_head (hf : h.Faithful) (hc : h.Checked)
    (ht : ∀ g ∈ h.log, g.pattern.spec.isTextual) (hl : Log.LeavesHead h.log) {path : Value}
    {d : Disposition} (hd : h.router.dispatch (.text "GET") path = .ok d) :
    ∃ d', h.router.dispatch (.text "HEAD") path = .ok d' ∧ d'.Alike d := by
  cases path with
  | text path =>
    have hfound := standsFor_found hf hc ht hl path
    have hget := h.router.dispatch_name path .get
    have hhead := h.router.dispatch_name path .head
    have hcrossed : (h.router.found .head path).any (·.2.isCrossed) =
        (h.router.found .get path).any (·.2.isCrossed) := by
      generalize h.router.found .head path = found at hfound
      generalize h.router.found .get path = found' at hfound
      cases hfound with
      | none => rfl
      | some h => exact congrArg Regex.Match.isCrossed h.2
    rw [hcrossed] at hhead
    change h.router.dispatch (.text Verb.get.name) _ = _ at hd
    rw [hget] at hd
    change ∃ d', h.router.dispatch (.text Verb.head.name) _ = _ ∧ _
    rw [hhead]
    split at hd
    · cases hd
    · next hwhole =>
      cases hd
      rw [if_neg hwhole]
      exact ⟨_, rfl, Router.alike_outcome hfound⟩
  | _ => cases hd

end History

end ActionRouting
