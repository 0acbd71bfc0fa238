import ActionRouting.Proofs.Router.Agreement

/-! What a derived entry for `HEAD` serves. It is made when `GET` is registered first and stays when
`GET` is registered again, so it serves what `GET` serves if and only if the first and the latest of
these registrations bind the same. -/
namespace ActionRouting

/-- Two registrations bind the same: one path to one action of one target. -/
structure Registration.BindsLike (g g' : Registration) : Prop where
  pattern_eq : g.pattern = g'.pattern
  target_eq : g.target = g'.target
  action_eq : g.action = g'.action
  handler_eq : g.handler = g'.handler

/-- Two entries serve the same, whatever their verbs and however they came about. -/
structure RouteEntry.ServesLike (e e' : RouteEntry) : Prop where
  pattern_eq : e.pattern = e'.pattern
  target_eq : e.target = e'.target
  action_eq : e.action = e'.action
  handler_eq : e.handler = e'.handler

/-- Entries that registrations make serve the same where these bind the same. -/
theorem Registration.servesLike_entry_iff (g g' : Registration) (v v' : Verb)
    (kind kind' : EntryKind) :
    (g.entry v kind).ServesLike (g'.entry v' kind') ↔ g.BindsLike g' := by
  constructor
  · intro h
    exact ⟨h.pattern_eq, h.target_eq, h.action_eq, Option.some.inj h.handler_eq⟩
  · intro h
    exact ⟨h.pattern_eq, h.target_eq, h.action_eq, congrArg some h.handler_eq⟩

namespace Log

variable {config : RouterConfig} {log : List Registration} {s : String} {e : RouteEntry}

def first? (log : List Registration) (v : Verb) (s : String) : Option Registration :=
  log.find? (Registration.isFor v s)

/-- A derived entry is made of the first registration of `GET`. -/
lemma entryOf_implicit {v : Verb} (he : entryOf config log v s = some e)
    (hk : e.kind = .implicit) :
    ∃ first, first? log .get s = some first ∧ e = first.entry .head .implicit := by
  rw [entryOf] at he
  cases hl : latest? log v s with
  | some g =>
    rw [hl] at he
    cases he
    cases hk
  | none =>
    rw [hl] at he
    cases hd : derivation? log v s with
    | some g =>
      rw [hd] at he
      cases he
      unfold derivation? at hd
      split at hd
      · exact ⟨g, hd, rfl⟩
      · cases hd
    | none =>
      rw [hd] at he
      obtain ⟨f, -, rfl⟩ := Option.map_eq_some_iff.mp he
      cases hk

/-- Where there is a first registration there is a latest one. -/
lemma latest?_of_first? {v : Verb} {first : Registration} (h : first? log v s = some first) :
    ∃ latest, latest? log v s = some latest := by
  apply Option.isSome_iff_exists.mp
  rw [latest?_isSome]
  obtain ⟨hv, hs⟩ := find?_isFor h
  exact ⟨first, List.mem_of_find?_eq_some h, hv, hs⟩

end Log

namespace History

/-- After any calls, the entry that `HEAD` has under a source by derivation is made of the first
registration of `GET` for that source since the last flush, and the entry of `GET` is made of the
latest. So the derived entry serves what `GET` serves if and only if the two registrations bind the
same. -/
theorem derived_head_iff (config : RouterConfig) (calls : List Call) {s : String} {e : RouteEntry}
    (he : (run config calls).router.entry? .head s = some e) (hk : e.kind = .implicit) :
    ∃ first latest, Log.first? (run config calls).log .get s = some first ∧
      Log.latest? (run config calls).log .get s = some latest ∧
      e = first.entry .head .implicit ∧
      (run config calls).router.entry? .get s = some (latest.entry .get .explicit) ∧
      (e.ServesLike (latest.entry .get .explicit) ↔ first.BindsLike latest) := by
  have hf := faithful_run config calls
  generalize run config calls = h at *
  rw [hf.entry?_eq] at he
  obtain ⟨first, hfirst, rfl⟩ := Log.entryOf_implicit he hk
  obtain ⟨latest, hlatest⟩ := Log.latest?_of_first? hfirst
  refine ⟨first, latest, hfirst, hlatest, rfl, ?_, ?_⟩
  · rw [hf.entry?_eq, Log.entryOf, hlatest]
  · exact first.servesLike_entry_iff latest ..

def reboundCalls : List Call :=
  [.route (.text "/x") shower .null .null, .route (.text "/x") shower (.text "update") .null]

theorem derived_head_rebound : ∃ e get,
    (run {} reboundCalls).router.entry? .head "^/x/?$" = some e ∧ e.kind = .implicit ∧
    (run {} reboundCalls).router.entry? .get "^/x/?$" = some get ∧ ¬ e.ServesLike get := by
  have hentry : ((run {} reboundCalls).router.entry? .head "^/x/?$").any (fun e =>
      e.kind = .implicit && e.action == "show") := by decide +kernel
  have hget : ((run {} reboundCalls).router.entry? .get "^/x/?$").any (·.action == "update") := by
    decide +kernel
  obtain ⟨e, he, hkind⟩ := (Option.any_eq_true _ _).mp hentry
  rw [Bool.and_eq_true, decide_eq_true_eq, beq_iff_eq] at hkind
  obtain ⟨first, latest, -, -, hfirst, hlatest, hserves⟩ :=
    derived_head_iff {} reboundCalls he hkind.1
  refine ⟨e, _, he, hkind.1, hlatest, fun h => ?_⟩
  have hshow : first.action = "show" := by rw [← hkind.2, hfirst]; rfl
  have hupdate : latest.action = "update" := by
    rw [hlatest] at hget
    simpa [Registration.entry] using hget
  have := (hserves.mp h).action_eq
  rw [hshow, hupdate] at this
  exact absurd this (by decide)

end History

end ActionRouting
