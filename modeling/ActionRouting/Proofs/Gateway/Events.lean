import ActionRouting.Gateway.RequestPath
import ActionRouting.Proofs.Value.Kinds

/-! Events whose fields have their kinds, and what can be read of them. The stage and the mount can
always be read. The verb and the path need more: either may come from inside a section, where an
event may hold any value. -/
namespace ActionRouting.Gateway

/-- What an event has under a key, or nothing. -/
def field (fields : OrderedMap Value) (key : String) : Value :=
  (OrderedMap.get? key fields).getD .null

def fieldsOf (fields : OrderedMap Value) (key : String) : OrderedMap Value :=
  (field fields key).fields

/-- The fields of an event have the kinds that a gateway gives them, as far as it matters here. -/
structure IsEvent (fields : OrderedMap Value) : Prop where
  texts : ∀ key ∈ ["httpMethod", "path", "rawPath", "resource", "body"],
    (field fields key).isTextOrNull
  mappings : ∀ key ∈ ["headers", "pathParameters", "requestContext"],
    (field fields key).isMappingOrNull
  headers : ∀ p ∈ fieldsOf fields "headers", p.2.isText

/-- The value that names the verb: it stands in the event, or in a section of the context. -/
def verbField? (fields : OrderedMap Value) : Option Value :=
  if (field fields "httpMethod").truthy then some (field fields "httpMethod")
  else
    match (field (fieldsOf fields "requestContext") "http").orElse (.mapping []) with
    | .mapping http => some ((OrderedMap.get? "method" http).getD (.text ""))
    | _ => none

/-- The event names a verb in a way that can be read. -/
def givesVerb (fields : OrderedMap Value) : Bool := (verbField? fields).any Value.isString

def proxy? (fields : OrderedMap Value) : Option GreedyProxy :=
  GreedyProxy.find? ((field fields "resource").orElse (.text "/")).chars

def taken (fields : OrderedMap Value) (proxy : GreedyProxy) : Value :=
  (field (fieldsOf fields "pathParameters") (String.ofList proxy.name)).orElse (.text "")

/-- A greedy proxy part, if there is one, took a text. -/
def givesTail (fields : OrderedMap Value) : Bool :=
  (proxy? fields).all fun proxy => (taken fields proxy).isText

def pathField (fields : OrderedMap Value) : Value :=
  (field fields "path").orElse (field fields "rawPath")

/-- The event names a path: a greedy proxy part took one, or it has one. -/
def namesPath (fields : OrderedMap Value) : Bool :=
  (proxy? fields).isSome || !(pathField fields).isNull

section Reading

variable {fields : OrderedMap Value} {key : String}

lemma get_mapping : (Value.mapping fields).get key = .ok (field fields key) := rfl

lemma sectionOf_mapping (h : (field fields key).isMappingOrNull) :
    sectionOf (.mapping fields) key = .ok (.mapping (fieldsOf fields key)) :=
  congrArg Except.ok (Value.orElse_mapping h)

lemma textOf_of_isText {v : Value} (h : v.isText) : textOf v = .ok v.chars := by
  obtain ⟨s, rfl⟩ := Value.isText_iff.mp h
  rfl

lemma isOk_textOf {v : Value} : (textOf v).isOk = v.isText := by cases v <;> rfl

lemma isOk_upperValue {v : Value} : (upperValue v).isOk = v.isString := by cases v <;> rfl

/-- What is in upper case is text or bytes still. -/
lemma isString_of_upperValue {v w : Value} (h : upperValue v = .ok w) : w.isString := by
  cases v <;> cases h <;> rfl

lemma methodOf_mapping (he : IsEvent fields) :
    methodOf (.mapping fields) = (verbField? fields).elim (.error .noSuchMethod) upperValue := by
  have hcontext := sectionOf_mapping (he.mappings "requestContext" (by decide))
  simp only [methodOf, verbField?, get_mapping, hcontext, Result.ok_bind]
  split
  · rfl
  · cases (field (fieldsOf fields "requestContext") "http").orElse (.mapping []) <;> rfl

/-- The verb of an event can be read if and only if a text or bytes names it. -/
lemma isOk_methodOf (he : IsEvent fields) :
    (methodOf (.mapping fields)).isOk = givesVerb fields := by
  rw [methodOf_mapping he, givesVerb]
  cases verbField? fields with
  | none => rfl
  | some v => exact isOk_upperValue

lemma isString_of_methodOf (he : IsEvent fields) {verb : Value}
    (h : methodOf (.mapping fields) = .ok verb) : verb.isString := by
  rw [methodOf_mapping he] at h
  cases hv : verbField? fields with
  | none =>
    rw [hv] at h
    cases h
  | some v =>
    rw [hv] at h
    exact isString_of_upperValue h

/-- Headers that are texts name a host that is a text. -/
lemma hostIn_of_texts {headers : OrderedMap Value} (h : ∀ p ∈ headers, p.2.isText) :
    ∃ s, hostIn (.mapping headers) = .ok (.text s) := by
  have hget (key : String) {v : Value} (hv : v.isText) :
      ((OrderedMap.get? key headers).getD v).isText := by
    cases hg : OrderedMap.get? key headers with
    | none => exact hv
    | some w => exact h _ (OrderedMap.mem_of_get? hg)
  obtain ⟨s, hs⟩ := Value.isText_iff.mp
    (hget "x-forwarded-host" (hget "host" (v := .text "") rfl))
  exact ⟨s, congrArg Except.ok hs⟩

/-- The stage can always be read. -/
lemma isOk_stageOf (he : IsEvent fields) : (stageOf (.mapping fields)).isOk := by
  obtain ⟨host, hhost⟩ := hostIn_of_texts he.headers
  have hheaders := sectionOf_mapping (he.mappings "headers" (by decide))
  have hcontext := sectionOf_mapping (he.mappings "requestContext" (by decide))
  have hgateway : ∃ b, isGatewayHost (.text host) = .ok b := by
    simp only [isGatewayHost, Value.holds, Result.ok_bind]
    split
    · exact ⟨_, rfl⟩
    · exact ⟨false, rfl⟩
  obtain ⟨b, hb⟩ := hgateway
  simp only [stageOf, hheaders, hcontext, hhost, hb, Result.ok_bind]
  split
  · rfl
  · rfl

lemma rawPathOf_mapping : rawPathOf (.mapping fields) = .ok (pathField fields) := rfl

lemma isTextOrNull_pathField (he : IsEvent fields) : (pathField fields).isTextOrNull :=
  Value.isTextOrNull_orElse (he.texts _ (by decide)) (he.texts _ (by decide))

lemma pathOf_mapping (he : IsEvent fields) :
    pathOf (.mapping fields) = (proxy? fields).elim (.ok (pathField fields)) fun proxy =>
      (textOf (taken fields proxy)).map fun rest => .text (String.ofList ('/' :: rest)) := by
  have hresource := textOf_of_isText
    (Value.isText_orElse (he.texts "resource" (by decide)) "/")
  have hparameters := sectionOf_mapping (he.mappings "pathParameters" (by decide))
  simp only [pathOf, proxy?, taken, get_mapping, hresource, hparameters, Result.ok_bind]
  cases GreedyProxy.find? ((field fields "resource").orElse (.text "/")).chars with
  | none => rfl
  | some proxy =>
    simp only [Option.elim_some]
    cases textOf (taken fields proxy) <;> rfl

/-- The path of an event can be read if and only if no greedy proxy part took something other than a
text. -/
lemma isOk_pathOf (he : IsEvent fields) : (pathOf (.mapping fields)).isOk = givesTail fields := by
  rw [pathOf_mapping he, givesTail]
  cases proxy? fields with
  | none => rfl
  | some proxy =>
    rw [Option.elim_some, Option.all_some, ← isOk_textOf]
    cases textOf (taken fields proxy) <;> rfl

/-- The path that is read is a text where the event names one, and nothing elsewhere. -/
lemma path_of_pathOf (he : IsEvent fields) {path : Value}
    (h : pathOf (.mapping fields) = .ok path) :
    if namesPath fields then path.isText else path = .null := by
  rw [pathOf_mapping he] at h
  rw [namesPath]
  cases hp : proxy? fields with
  | none =>
    rw [hp] at h
    cases h
    have hkind := isTextOrNull_pathField he
    cases hpath : pathField fields <;> simp_all [Value.isTextOrNull, Value.isNull, Value.isText]
  | some proxy =>
    rw [hp, Option.elim_some] at h
    cases ht : textOf (taken fields proxy) with
    | error e =>
      rw [ht] at h
      cases h
    | ok rest =>
      rw [ht] at h
      cases h
      rfl

lemma isOk_apiPrefixOf (he : IsEvent fields) : (apiPrefixOf (.mapping fields)).isOk := by
  have hresource := textOf_of_isText
    (Value.isText_orElse (he.texts "resource" (by decide)) "")
  simp only [apiPrefixOf, get_mapping, hresource, Result.ok_bind]
  rfl

/-- The mapping of a custom domain can be read once there is a path to route on. -/
lemma isOk_pathMappingOf (he : IsEvent fields) (apiPrefix : String) {path : Value}
    (hp : path.isText) : (pathMappingOf (.mapping fields) apiPrefix path).isOk := by
  obtain ⟨whole, hwhole⟩ := Value.isText_iff.mp
    (Value.isText_orElse (isTextOrNull_pathField he) "")
  simp only [pathMappingOf, rawPathOf_mapping, textOf_of_isText hp, hwhole, Result.ok_bind]
  rfl

end Reading

namespace RequestPath

variable {fields : OrderedMap Value}

/-- What is read of an event is read part by part, the mapping last. -/
lemma parts_of_ofEvent {event : Value} {p : RequestPath} (h : ofEvent event = .ok p) :
    methodOf event = .ok p.method ∧ stageOf event = .ok p.stage ∧ pathOf event = .ok p.path ∧
      apiPrefixOf event = .ok p.apiPrefix ∧
      (if !p.stage.truthy && p.path.truthy then pathMappingOf event p.apiPrefix p.path
        else .ok "") = .ok p.pathMapping := by
  unfold ofEvent at h
  obtain ⟨version, -, h⟩ := Result.bind_eq_ok.mp h
  obtain ⟨method, hmethod, h⟩ := Result.bind_eq_ok.mp h
  obtain ⟨stage, hstage, h⟩ := Result.bind_eq_ok.mp h
  obtain ⟨path, hpath, h⟩ := Result.bind_eq_ok.mp h
  obtain ⟨apiPrefix, hprefix, h⟩ := Result.bind_eq_ok.mp h
  dsimp only at h
  split at h
  · next hrouted =>
    obtain ⟨pathMapping, hmapping, h⟩ := Result.bind_eq_ok.mp h
    cases h
    exact ⟨hmethod, hstage, hpath, hprefix, by rw [if_pos hrouted, hmapping]⟩
  · next hrouted =>
    cases h
    exact ⟨hmethod, hstage, hpath, hprefix, by rw [if_neg hrouted]⟩

/-- What is read of an event begins with its verb and its path. -/
lemma of_ofEvent {event : Value} {p : RequestPath} (h : ofEvent event = .ok p) :
    methodOf event = .ok p.method ∧ pathOf event = .ok p.path :=
  have ⟨hmethod, _, hpath, _⟩ := parts_of_ofEvent h
  ⟨hmethod, hpath⟩

/-- An event can be read if and only if its verb and its path can. -/
theorem isOk_ofEvent (he : IsEvent fields) :
    (ofEvent (.mapping fields)).isOk ↔ givesVerb fields ∧ givesTail fields := by
  constructor
  · intro h
    obtain ⟨p, hp⟩ := Result.isOk_iff.mp h
    obtain ⟨hmethod, hpath⟩ := of_ofEvent hp
    rw [← isOk_methodOf he, ← isOk_pathOf he, hmethod, hpath]
    exact ⟨rfl, rfl⟩
  · rintro ⟨hverb, htail⟩
    rw [← isOk_methodOf he] at hverb
    rw [← isOk_pathOf he] at htail
    obtain ⟨method, hmethod⟩ := Result.isOk_iff.mp hverb
    obtain ⟨path, hpath⟩ := Result.isOk_iff.mp htail
    obtain ⟨stage, hstage⟩ := Result.isOk_iff.mp (isOk_stageOf he)
    obtain ⟨apiPrefix, hprefix⟩ := Result.isOk_iff.mp (isOk_apiPrefixOf he)
    simp only [ofEvent, get_mapping, hmethod, hstage, hpath, hprefix, Result.ok_bind]
    split
    · next hrouted =>
      -- A path that counts as true is no missing path.
      have htext : path.isText := by
        have hkind := path_of_pathOf he hpath
        split at hkind
        · exact hkind
        · rw [hkind] at hrouted
          simp [Value.truthy] at hrouted
      obtain ⟨pathMapping, hmapping⟩ := Result.isOk_iff.mp (isOk_pathMappingOf he apiPrefix htext)
      rw [hmapping]
      rfl
    · rfl

end RequestPath

end ActionRouting.Gateway
