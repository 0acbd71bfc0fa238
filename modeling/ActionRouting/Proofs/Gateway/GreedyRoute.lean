import Mathlib.Data.List.DropRight
import ActionRouting.Proofs.Gateway.Events
import ActionRouting.Proofs.Gateway.GreedyProxy

/-! Where a resource with a greedy proxy part routes: on what the part took, below what stands
before it. -/
namespace ActionRouting.Gateway

section Reading

variable {fields : OrderedMap Value} {resource : String}

lemma orElse_of_text (resource : String) (other : Value) (h : resource ≠ "" ∨ other = .text "") :
    (Value.text resource).orElse other = .text resource := by
  by_cases hempty : resource = "" <;> simp_all [Value.orElse, Value.truthy]

/-- A section that has a text under a key is a mapping. -/
lemma isMappingOrNull_of_field {key name tail : String}
    (h : field (fieldsOf fields key) name = .text tail) : (field fields key).isMappingOrNull := by
  rw [fieldsOf] at h
  cases hsection : field fields key with
  | null => rfl
  | mapping _ => rfl
  | _ =>
    rw [hsection] at h
    cases h

/-- The path to route on is what the greedy proxy part took. -/
lemma pathOf_of_find? (hresource : field fields "resource" = .text resource)
    {proxy : GreedyProxy} (hproxy : GreedyProxy.find? resource.toList = some proxy) {tail : String}
    (htail : field (fieldsOf fields "pathParameters") (String.ofList proxy.name) = .text tail) :
    pathOf (.mapping fields) = .ok (.text ("/" ++ tail)) := by
  have hne : resource ≠ "" := by
    rintro rfl
    cases hproxy
  have hwhole := orElse_of_text resource (.text "/") (Or.inl hne)
  have hsection := sectionOf_mapping (isMappingOrNull_of_field htail)
  have hkept := orElse_of_text tail _ (Or.inr rfl)
  have hjoin : String.ofList ('/' :: tail.toList) = "/" ++ tail := String.toList_inj.mp (by simp)
  simp only [pathOf, get_mapping, hresource, hwhole, textOf, Result.ok_bind, hproxy, hsection,
    htail, hkept]
  rw [← hjoin]
  rfl

/-- Without a greedy proxy part the path to route on is that of the event. -/
lemma pathOf_of_find?_eq_none (hresource : field fields "resource" = .text resource)
    (hne : resource ≠ "") (hproxy : GreedyProxy.find? resource.toList = none) :
    pathOf (.mapping fields) = .ok (pathField fields) := by
  have hwhole := orElse_of_text resource (.text "/") (Or.inl hne)
  simp only [pathOf, get_mapping, hresource, hwhole, textOf, Result.ok_bind, hproxy]
  rfl

/-- The prefix is the resource without its greedy proxy part and without slashes at the end. -/
lemma apiPrefixOf_of_resource (hresource : field fields "resource" = .text resource) :
    apiPrefixOf (.mapping fields) =
      .ok (String.ofList ((GreedyProxy.strip resource.toList).rdropWhile (· == '/'))) := by
  have hwhole := orElse_of_text resource _ (Or.inr rfl)
  simp only [apiPrefixOf, get_mapping, hresource, hwhole, textOf, Result.ok_bind]
  rfl

end Reading

namespace RequestPath

/-- A request is routed on what a greedy proxy part took, below the resource before the part. -/
structure RoutesOn (p : RequestPath) (base tail : String) : Prop where
  path : p.path = .text ("/" ++ tail)
  apiPrefix : p.apiPrefix = base

/-- An event whose path can be read can be read if and only if its verb can. -/
lemma isOk_ofEvent_of_pathOf {fields : OrderedMap Value} {path : Value} (he : IsEvent fields)
    (hpath : pathOf (.mapping fields) = .ok path) :
    (ofEvent (.mapping fields)).isOk ↔ givesVerb fields := by
  have htail : givesTail fields := by
    rw [← isOk_pathOf he, hpath]
    rfl
  rw [isOk_ofEvent he, and_iff_left htail]

section Greedy

variable {fields : OrderedMap Value} {base : String} {proxy : GreedyProxy}

lemma toList_resource :
    (base ++ String.ofList proxy.write).toList = base.toList ++ proxy.write := by simp

lemma find?_resource (hproxy : proxy.IsReadable) (hclear : ¬ OpensEarly base.toList) :
    GreedyProxy.find? (base ++ String.ofList proxy.write).toList = some proxy := by
  rw [toList_resource, GreedyProxy.find?_append_write hclear hproxy]

/-- Where no placeholder opens before the greedy proxy part, the prefix is all that is before it. -/
lemma apiPrefixOf_of_not_opensEarly
    (hresource : field fields "resource" = .text (base ++ String.ofList proxy.write))
    (hbase : base.toList.getLast? ≠ some '/') (hproxy : proxy.IsReadable)
    (hclear : ¬ OpensEarly base.toList) : apiPrefixOf (.mapping fields) = .ok base := by
  have hkept : base.toList.rdropWhile (· == '/') = base.toList := by
    refine List.rdropWhile_eq_self_iff.mpr fun hne hslash => hbase ?_
    rw [List.getLast?_eq_some_getLast hne, eq_of_beq hslash]
  rw [apiPrefixOf_of_resource hresource, toList_resource,
    GreedyProxy.strip_append_write hclear hproxy, hkept, String.ofList_toList]

/-- Where a placeholder opens before the greedy proxy part, the prefix ends at the first one. -/
lemma apiPrefixOf_of_opensEarly
    (hresource : field fields "resource" = .text (base ++ String.ofList proxy.write))
    (hproxy : proxy.IsReadable) (hearly : OpensEarly base.toList) :
    ∃ first, (first ++ ['/', '\x7b']) <+: base.toList ∧
      apiPrefixOf (.mapping fields) = .ok (String.ofList (first.rdropWhile (· == '/'))) := by
  obtain ⟨first, rest, hbase, hrest, hfirst⟩ := hearly.exists_first
  refine ⟨first, ⟨rest, by simp [hbase]⟩, ?_⟩
  have hwhole : (base ++ String.ofList proxy.write).toList =
      first ++ GreedyProxy.write ⟨rest ++ '/' :: '\x7b' :: proxy.name⟩ := by
    simp [hbase, GreedyProxy.write]
  have hlong : GreedyProxy.IsReadable ⟨rest ++ '/' :: '\x7b' :: proxy.name⟩ :=
    ⟨by simp, by simp [hrest, hproxy.2]⟩
  rw [apiPrefixOf_of_resource hresource, hwhole, GreedyProxy.strip_append_write hfirst hlong]

lemma routesOn_of_not_opensEarly {tail : String}
    (hresource : field fields "resource" = .text (base ++ String.ofList proxy.write))
    (hbase : base.toList.getLast? ≠ some '/') (hproxy : proxy.IsReadable)
    (htail : field (fieldsOf fields "pathParameters") (String.ofList proxy.name) = .text tail)
    (hclear : ¬ OpensEarly base.toList) {p : RequestPath}
    (hp : ofEvent (.mapping fields) = .ok p) : p.RoutesOn base tail := by
  obtain ⟨-, -, hpath, hprefix, -⟩ := parts_of_ofEvent hp
  rw [pathOf_of_find? hresource (find?_resource hproxy hclear) htail] at hpath
  rw [apiPrefixOf_of_not_opensEarly hresource hbase hproxy hclear] at hprefix
  exact ⟨(Except.ok.inj hpath).symm, (Except.ok.inj hprefix).symm⟩

/-- A resource that ends with a greedy proxy part routes on what the part took if no other
placeholder opens before it, and only then. -/
theorem routesOn_iff_not_opensEarly {tail : String}
    (hresource : field fields "resource" = .text (base ++ String.ofList proxy.write))
    (hbase : base.toList.getLast? ≠ some '/') (hproxy : proxy.IsReadable)
    (htail : field (fieldsOf fields "pathParameters") (String.ofList proxy.name) = .text tail) :
    (∀ p, ofEvent (.mapping fields) = .ok p → (p.RoutesOn base tail ↔ ¬ OpensEarly base.toList)) ∧
      (IsEvent fields → ((∃ p, ofEvent (.mapping fields) = .ok p ∧ p.RoutesOn base tail) ↔
        givesVerb fields ∧ ¬ OpensEarly base.toList)) := by
  have hroutes (p : RequestPath) (hp : ofEvent (.mapping fields) = .ok p) :
      p.RoutesOn base tail ↔ ¬ OpensEarly base.toList := by
    refine ⟨?_, fun hclear => routesOn_of_not_opensEarly hresource hbase hproxy htail hclear hp⟩
    rintro ⟨-, hkept⟩ hearly
    obtain ⟨-, -, -, hkeeps, -⟩ := parts_of_ofEvent hp
    obtain ⟨first, hfirst, hcut⟩ := apiPrefixOf_of_opensEarly hresource hproxy hearly
    -- The prefix would have to be longer than what it is cut from.
    have hshort : base.toList.length ≤ first.length := by
      rw [hkeeps, hkept] at hcut
      rw [Except.ok.inj hcut, String.toList_ofList]
      exact (List.rdropWhile_prefix _ _).length_le
    have hlong := hfirst.length_le
    simp only [List.length_append, List.length_cons, List.length_nil] at hlong
    omega
  refine ⟨hroutes, fun he => ⟨?_, ?_⟩⟩
  · rintro ⟨p, hp, hon⟩
    exact ⟨((isOk_ofEvent he).mp (Result.isOk_iff.mpr ⟨p, hp⟩)).1, (hroutes p hp).mp hon⟩
  · rintro ⟨hverb, hclear⟩
    have hpath := pathOf_of_find? hresource (find?_resource hproxy hclear) htail
    obtain ⟨p, hp⟩ := Result.isOk_iff.mp ((isOk_ofEvent_of_pathOf he hpath).mpr hverb)
    exact ⟨p, hp, (hroutes p hp).mpr hclear⟩

def requestBelow (base tail : String) : OrderedMap Value :=
  [("httpMethod", .text "GET"), ("resource", .text (base ++ "/\x7bproxy+\x7d")),
    ("pathParameters", .mapping [("proxy", .text tail), ("id", .text "7")])]

/-- The files of all users are found, those of one user are not. -/
theorem routesOn_iff_not_opensEarly_users :
    (∃ p, ofEvent (.mapping (requestBelow "/users" "a/b")) = .ok p ∧ p.RoutesOn "/users" "a/b") ∧
    ∃ p, ofEvent (.mapping (requestBelow "/users/\x7bid\x7d" "a/b")) = .ok p ∧
      ¬ p.RoutesOn "/users/\x7bid\x7d" "a/b" := by
  have hroutes (base : String) (hbase : base.toList.getLast? ≠ some '/') :=
    @routesOn_iff_not_opensEarly (requestBelow base "a/b") base ⟨"proxy".toList⟩ "a/b" rfl hbase
      (by decide) rfl
  constructor
  · have hevent : IsEvent (requestBelow "/users" "a/b") := ⟨by decide, by decide, by decide⟩
    exact ((hroutes "/users" (by decide)).2 hevent).mpr ⟨by decide, by decide⟩
  · obtain ⟨p, hp⟩ := Result.isOk_iff.mp
      (show (ofEvent (.mapping (requestBelow "/users/\x7bid\x7d" "a/b"))).isOk by decide)
    exact ⟨p, hp, fun h =>
      ((hroutes "/users/\x7bid\x7d" (by decide)).1 p hp).mp h (by decide)⟩

end Greedy

end RequestPath

end ActionRouting.Gateway
