import ActionRouting.Proofs.Gateway.GreedyRoute
import ActionRouting.Proofs.Text.Removal

/-! The base path that a custom domain maps to a service. The gateway does not name it, so it is
what is left of the path of the event when the resource and the routed path are removed, wherever
they stand in it. -/
namespace ActionRouting.Gateway

/-- The host of the request is none that the gateway gave. -/
def OnCustomDomain (event : Value) : Prop :=
  (sectionOf event "headers" >>= hostIn >>= isGatewayHost) = .ok false

lemma stageOf_of_onCustomDomain {event : Value} (h : OnCustomDomain event) :
    stageOf event = .ok (.text "") := by
  obtain ⟨host, hhost, hgateway⟩ := Result.bind_eq_ok.mp h
  obtain ⟨headers, hheaders, hhost⟩ := Result.bind_eq_ok.mp hhost
  simp only [stageOf, hheaders, hhost, hgateway, Result.ok_bind]
  rfl

namespace RequestPath

/-- The service is mounted at a base below the base path of its domain, and with the routed path
this makes the whole path of the event. -/
structure MountedBelow (p : RequestPath) (mapping base whole : String) : Prop where
  pathMapping : p.pathMapping = mapping
  mount : p.mount = mapping ++ base
  whole : ∃ routed, p.path = .text routed ∧ p.mount ++ routed = whole

/-- Where no stage shows in paths, the mount is the base path and the prefix. -/
lemma mount_of_stage {p : RequestPath} (h : p.stage = .text "") :
    p.mount = p.pathMapping ++ p.apiPrefix := by
  have hstage : p.showsStage = false := by
    rw [showsStage, h]
    rfl
  rw [mount, hstage]
  by_cases hempty : p.pathMapping = "" <;> simp [hempty]

section Mapping

variable {fields : OrderedMap Value} {whole : String}

lemma pathMappingOf_text (hwhole : pathField fields = .text whole) (apiPrefix routed : String) :
    pathMappingOf (.mapping fields) apiPrefix (.text routed) =
      .ok (String.ofList (Text.remove (apiPrefix.toList ++ routed.toList) whole.toList)) := by
  have hkept := orElse_of_text whole _ (Or.inr rfl)
  simp only [pathMappingOf, rawPathOf_mapping, hwhole, hkept, textOf, Result.ok_bind]
  rfl

/-- On a custom domain the base path is what is left of the path of the event. -/
lemma pathMapping_of_ofEvent (hhost : OnCustomDomain (.mapping fields))
    (hwhole : pathField fields = .text whole) {p : RequestPath}
    (hp : ofEvent (.mapping fields) = .ok p) {routed : String} (hrouted : p.path = .text routed)
    (hne : routed ≠ "") :
    p.pathMapping =
      String.ofList (Text.remove (p.apiPrefix.toList ++ routed.toList) whole.toList) := by
  obtain ⟨-, hstage, -, -, hmapping⟩ := parts_of_ofEvent hp
  rw [stageOf_of_onCustomDomain hhost] at hstage
  have hroutes : (!p.stage.truthy && p.path.truthy) = true := by
    rw [← Except.ok.inj hstage, hrouted]
    simpa [Value.truthy] using hne
  rw [if_pos hroutes, hrouted, pathMappingOf_text hwhole] at hmapping
  exact (Except.ok.inj hmapping).symm

end Mapping

section Greedy

variable {fields : OrderedMap Value} {base tail mapping : String} {proxy : GreedyProxy}

/-- What is read of a readable part is mounted as the base path says. -/
lemma mountedBelow_of_routesOn {p : RequestPath} (hstage : p.stage = .text "")
    (hroutes : p.RoutesOn base tail) :
    p.MountedBelow mapping base (mapping ++ (base ++ "/" ++ tail)) ↔ p.pathMapping = mapping := by
  refine ⟨fun h => h.pathMapping, fun h => ?_⟩
  have hmount : p.mount = mapping ++ base := by
    rw [mount_of_stage hstage, h, hroutes.apiPrefix]
  refine ⟨h, hmount, "/" ++ tail, hroutes.path, ?_⟩
  simp only [hmount, String.append_assoc]

/-- The base path that is read of a readable part is what a removal leaves. -/
lemma pathMapping_eq_iff (hhost : OnCustomDomain (.mapping fields))
    (hwhole : pathField fields = .text (mapping ++ (base ++ "/" ++ tail))) {p : RequestPath}
    (hp : ofEvent (.mapping fields) = .ok p) (hroutes : p.RoutesOn base tail) :
    p.pathMapping = mapping ↔
      Text.IsRecoverable mapping.toList (base ++ "/" ++ tail).toList := by
  have hne : "/" ++ tail ≠ "" := by simp
  have hsome : (base ++ "/" ++ tail).toList ≠ [] := by simp
  have hpart : base.toList ++ ("/" ++ tail).toList = (base ++ "/" ++ tail).toList := by simp
  rw [pathMapping_of_ofEvent hhost hwhole hp hroutes.path hne, hroutes.apiPrefix, hpart,
    ← String.toList_inj, String.toList_ofList, String.toList_append (s := mapping)]
  exact Text.remove_append_eq_iff hsome

/-- A part that cannot be read leaves the path of the event as it is, resource and all. -/
lemma pathMapping_of_not_isReadable {whole : String} (hhost : OnCustomDomain (.mapping fields))
    (hresource : field fields "resource" = .text (base ++ String.ofList proxy.write))
    (hclear : ¬ OpensEarly base.toList) (hbrace : '\x7b' ∉ proxy.name)
    (hproxy : ¬ proxy.IsReadable) (hwhole : pathField fields = .text whole) (hne : whole ≠ "")
    {p : RequestPath} (hp : ofEvent (.mapping fields) = .ok p) : p.pathMapping = whole := by
  obtain ⟨-, -, hpath, hprefix, -⟩ := parts_of_ofEvent hp
  have hnone := GreedyProxy.find?_append_write_of_not_isReadable hclear hbrace hproxy
  rw [← toList_resource] at hnone
  rw [pathOf_of_find?_eq_none hresource (by simp [GreedyProxy.write_eq]) hnone, hwhole] at hpath
  rw [apiPrefixOf_of_resource hresource, toList_resource,
    GreedyProxy.strip_append_write_of_not_isReadable hclear hbrace hproxy] at hprefix
  -- The prefix still ends with the brace that closes the part.
  have hsome : p.apiPrefix.toList ≠ [] := by
    rw [← Except.ok.inj hprefix, String.toList_ofList]
    intro hempty
    have := List.rdropWhile_eq_nil_iff.mp hempty '\x7d' (by simp [GreedyProxy.write_eq])
    exact absurd this (by decide)
  rw [pathMapping_of_ofEvent hhost hwhole hp (Except.ok.inj hpath).symm hne,
    Text.remove_of_absent, String.ofList_toList]
  intro hin
  have hlength := hin.length_le
  have hpos := List.length_pos_iff.mpr hsome
  rw [List.length_append] at hlength
  omega

/-- On a custom domain the base path of a greedy resource is recovered if its proxy part can be read
and the base path is recoverable, and only then. -/
theorem mountedBelow_iff (hhost : OnCustomDomain (.mapping fields))
    (hresource : field fields "resource" = .text (base ++ String.ofList proxy.write))
    (hbase : base.toList.getLast? ≠ some '/') (hclear : ¬ OpensEarly base.toList)
    (hbrace : '\x7b' ∉ proxy.name)
    (htail : field (fieldsOf fields "pathParameters") (String.ofList proxy.name) = .text tail)
    (hwhole : pathField fields = .text (mapping ++ (base ++ "/" ++ tail))) :
    (∀ p, ofEvent (.mapping fields) = .ok p →
      (p.MountedBelow mapping base (mapping ++ (base ++ "/" ++ tail)) ↔
        proxy.IsReadable ∧ Text.IsRecoverable mapping.toList (base ++ "/" ++ tail).toList)) ∧
      (IsEvent fields → ((∃ p, ofEvent (.mapping fields) = .ok p ∧
          p.MountedBelow mapping base (mapping ++ (base ++ "/" ++ tail))) ↔
        givesVerb fields ∧ proxy.IsReadable ∧
          Text.IsRecoverable mapping.toList (base ++ "/" ++ tail).toList)) := by
  have hmounted (p : RequestPath) (hp : ofEvent (.mapping fields) = .ok p) :
      p.MountedBelow mapping base (mapping ++ (base ++ "/" ++ tail)) ↔
        proxy.IsReadable ∧ Text.IsRecoverable mapping.toList (base ++ "/" ++ tail).toList := by
    by_cases hproxy : proxy.IsReadable
    · have hroutes : p.RoutesOn base tail :=
        routesOn_of_not_opensEarly hresource hbase hproxy htail hclear hp
      obtain ⟨-, hstage, -⟩ := parts_of_ofEvent hp
      rw [stageOf_of_onCustomDomain hhost] at hstage
      rw [mountedBelow_of_routesOn (Except.ok.inj hstage).symm hroutes,
        pathMapping_eq_iff hhost hwhole hp hroutes, and_iff_right hproxy]
    · refine iff_of_false (fun h => ?_) fun h => hproxy h.1
      have hkept := pathMapping_of_not_isReadable hhost hresource hclear hbrace hproxy hwhole
        (by simp) hp
      rw [h.pathMapping, ← String.toList_inj] at hkept
      have := congrArg List.length hkept
      simp at this
  refine ⟨hmounted, fun he => ⟨?_, ?_⟩⟩
  · rintro ⟨p, hp, h⟩
    have hverb := ((isOk_ofEvent he).mp (Result.isOk_iff.mpr ⟨p, hp⟩)).1
    exact ⟨hverb, (hmounted p hp).mp h⟩
  · rintro ⟨hverb, hrecoverable⟩
    have hpath := pathOf_of_find? hresource (find?_resource hrecoverable.1 hclear) htail
    obtain ⟨p, hp⟩ := Result.isOk_iff.mp ((isOk_ofEvent_of_pathOf he hpath).mpr hverb)
    exact ⟨p, hp, (hmounted p hp).mpr hrecoverable⟩

def mappedRequest (whole tail : String) : OrderedMap Value :=
  [("path", .text whole), ("headers", .mapping [("host", .text "api.example.com")])] ++
    requestBelow "" tail

/-- The base path of a version is recovered, one that the routed path repeats is lost. -/
theorem mountedBelow_iff_overlapping :
    (∃ p, ofEvent (.mapping (mappedRequest "/v1/users" "users")) = .ok p ∧
      p.MountedBelow "/v1" "" "/v1/users") ∧
    ∃ p, ofEvent (.mapping (mappedRequest "/api/api" "api")) = .ok p ∧
      ¬ p.MountedBelow "/api" "" "/api/api" := by
  have hmounted (mapping tail : String) := @mountedBelow_iff
    (mappedRequest (mapping ++ ("" ++ "/" ++ tail)) tail) "" tail mapping ⟨"proxy".toList⟩
    rfl rfl (by decide) (by decide) (by decide) rfl (orElse_of_text _ _ (Or.inl (by simp)))
  constructor
  · have hevent : IsEvent (mappedRequest "/v1/users" "users") := ⟨by decide, by decide, by decide⟩
    have hrecoverable : Text.IsRecoverable "/v1".toList "/users".toList :=
      (Text.remove_append_eq_iff (by decide)).mp (by decide)
    exact ((hmounted "/v1" "users").2 hevent).mpr ⟨by decide, by decide, hrecoverable⟩
  · obtain ⟨p, hp⟩ := Result.isOk_iff.mp
      (show (ofEvent (.mapping (mappedRequest "/api/api" "api"))).isOk by decide)
    have hlost : ¬ Text.IsRecoverable "/api".toList "/api".toList :=
      fun h => absurd ((Text.remove_append_eq_iff (by decide)).mpr h) (by decide)
    exact ⟨p, hp, fun h => hlost (((hmounted "/api" "api").1 p hp).mp h).2⟩

end Greedy

end RequestPath

end ActionRouting.Gateway
