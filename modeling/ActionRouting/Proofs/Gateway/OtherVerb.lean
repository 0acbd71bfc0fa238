import ActionRouting.Proofs.Gateway.Events

/-! Events that are alike in all but the verb that they name. An event names its verb itself or in
its request context, and nothing else is read there but the stage. So what is read of two such
events is the same but for the verb. -/
namespace ActionRouting.Gateway

/-- Request contexts alike in all but what they tell of the HTTP request. -/
inductive AlikeContexts : Value → Value → Prop
  | refl (v : Value) : AlikeContexts v v
  | mapping {c c' : OrderedMap Value}
      (h : ∀ key, key ≠ "http" → OrderedMap.get? key c = OrderedMap.get? key c') :
      AlikeContexts (.mapping c) (.mapping c')

/-- Events alike in all but where they name the verb. -/
structure AlikeButVerb (fields fields' : OrderedMap Value) : Prop where
  get?_eq : ∀ key, key ≠ "httpMethod" → key ≠ "requestContext" →
    OrderedMap.get? key fields = OrderedMap.get? key fields'
  contexts : AlikeContexts (field fields "requestContext") (field fields' "requestContext")

def withVerb (verb : String) (fields : OrderedMap Value) : OrderedMap Value :=
  OrderedMap.insert "httpMethod" (.text verb) fields

/-- An event whose request context tells of a request with another verb. -/
def withContextVerb (verb : String) (fields : OrderedMap Value) : OrderedMap Value :=
  OrderedMap.insert "requestContext" (.mapping (OrderedMap.insert "http"
    (.mapping (OrderedMap.insert "method" (.text verb)
      (fieldsOf (fieldsOf fields "requestContext") "http")))
    (fieldsOf fields "requestContext"))) fields

lemma field_insert_self {fields : OrderedMap Value} {key : String} {v : Value} :
    field (OrderedMap.insert key v fields) key = v := by
  rw [field, OrderedMap.get?_insert_self, Option.getD_some]

lemma field_insert_of_ne {fields : OrderedMap Value} {key other : String} {v : Value}
    (h : key ≠ other) : field (OrderedMap.insert key v fields) other = field fields other := by
  rw [field, OrderedMap.get?_insert_of_ne h, field]

lemma alikeButVerb_withVerb (verb verb' : String) (fields : OrderedMap Value) :
    AlikeButVerb (withVerb verb fields) (withVerb verb' fields) where
  get?_eq := by
    intro key hkey _
    rw [withVerb, withVerb, OrderedMap.get?_insert_of_ne hkey.symm,
      OrderedMap.get?_insert_of_ne hkey.symm]
  contexts := by
    rw [withVerb, withVerb, field_insert_of_ne (by decide), field_insert_of_ne (by decide)]
    exact .refl _

lemma alikeButVerb_withContextVerb (verb verb' : String) (fields : OrderedMap Value) :
    AlikeButVerb (withContextVerb verb fields) (withContextVerb verb' fields) where
  get?_eq := by
    intro key _ hkey
    rw [withContextVerb, withContextVerb, OrderedMap.get?_insert_of_ne hkey.symm,
      OrderedMap.get?_insert_of_ne hkey.symm]
  contexts := by
    rw [withContextVerb, withContextVerb, field_insert_self, field_insert_self]
    refine .mapping fun key hkey => ?_
    rw [OrderedMap.get?_insert_of_ne hkey.symm, OrderedMap.get?_insert_of_ne hkey.symm]

namespace AlikeButVerb

variable {fields fields' : OrderedMap Value} {key : String}

/-- What is put under a key of both events leaves them alike. -/
lemma insert (h : AlikeButVerb fields fields') (hkey : key ≠ "requestContext") (v : Value) :
    AlikeButVerb (OrderedMap.insert key v fields) (OrderedMap.insert key v fields') where
  get?_eq := by
    intro other hverb hcontext
    by_cases ho : key = other
    · rw [ho, OrderedMap.get?_insert_self, OrderedMap.get?_insert_self]
    · rw [OrderedMap.get?_insert_of_ne ho, OrderedMap.get?_insert_of_ne ho]
      exact h.get?_eq other hverb hcontext
  contexts := by
    rw [field_insert_of_ne hkey, field_insert_of_ne hkey]
    exact h.contexts

lemma get_eq (h : AlikeButVerb fields fields') (hverb : key ≠ "httpMethod")
    (hcontext : key ≠ "requestContext") :
    (Value.mapping fields).get key = (Value.mapping fields').get key := by
  rw [Value.get, Value.get, h.get?_eq key hverb hcontext]

lemma sectionOf_eq (h : AlikeButVerb fields fields') (hverb : key ≠ "httpMethod")
    (hcontext : key ≠ "requestContext") :
    sectionOf (.mapping fields) key = sectionOf (.mapping fields') key := by
  rw [sectionOf, sectionOf, h.get_eq hverb hcontext]

/-- Alike contexts have the same stage. -/
lemma stage_eq (h : AlikeButVerb fields fields') :
    (sectionOf (.mapping fields) "requestContext" >>= (·.getOr "stage" (.text ""))) =
      (sectionOf (.mapping fields') "requestContext" >>= (·.getOr "stage" (.text ""))) := by
  have hempty (c : OrderedMap Value) : (Value.mapping c).orElse (.mapping []) = .mapping c := by
    cases c <;> rfl
  have hcontexts := h.contexts
  simp only [sectionOf, get_mapping, pure, Except.pure, Result.ok_bind]
  generalize field fields "requestContext" = v at *
  generalize field fields' "requestContext" = w at *
  cases hcontexts with
  | refl => rfl
  | mapping hc => rw [hempty, hempty, Value.getOr, Value.getOr, hc "stage" (by decide)]

lemma stageOf_eq (h : AlikeButVerb fields fields') :
    stageOf (.mapping fields) = stageOf (.mapping fields') := by
  have hheaders : sectionOf (.mapping fields) "headers" = sectionOf (.mapping fields') "headers" :=
    h.sectionOf_eq (by decide) (by decide)
  have hstage := h.stage_eq
  simp only [stageOf, hheaders]
  rw [hstage]

lemma rawPathOf_eq (h : AlikeButVerb fields fields') :
    rawPathOf (.mapping fields) = rawPathOf (.mapping fields') := by
  simp (disch := decide) only [rawPathOf, h.get_eq]

lemma pathOf_eq (h : AlikeButVerb fields fields') :
    pathOf (.mapping fields) = pathOf (.mapping fields') := by
  simp (disch := decide) only [pathOf, h.rawPathOf_eq, h.get_eq, h.sectionOf_eq]

lemma apiPrefixOf_eq (h : AlikeButVerb fields fields') :
    apiPrefixOf (.mapping fields) = apiPrefixOf (.mapping fields') := by
  simp (disch := decide) only [apiPrefixOf, h.get_eq]

/-- What is read of an event tells what is read of one that is alike but for its verb. -/
theorem ofEvent_eq (h : AlikeButVerb fields fields') {p : RequestPath} {verb : Value}
    (hp : RequestPath.ofEvent (.mapping fields) = .ok p)
    (hverb : methodOf (.mapping fields') = .ok verb) :
    RequestPath.ofEvent (.mapping fields') = .ok { p with method := verb } := by
  have hmapping : pathMappingOf (.mapping fields) = pathMappingOf (.mapping fields') := by
    funext apiPrefix path
    rw [pathMappingOf, pathMappingOf, h.rawPathOf_eq]
  have hversion : (Value.mapping fields).get "version" = (Value.mapping fields').get "version" :=
    h.get_eq (by decide) (by decide)
  unfold RequestPath.ofEvent at hp ⊢
  obtain ⟨version, hv, hp⟩ := Result.bind_eq_ok.mp hp
  obtain ⟨method, -, hp⟩ := Result.bind_eq_ok.mp hp
  obtain ⟨stage, hs, hp⟩ := Result.bind_eq_ok.mp hp
  obtain ⟨path, hpath, hp⟩ := Result.bind_eq_ok.mp hp
  obtain ⟨apiPrefix, ha, hp⟩ := Result.bind_eq_ok.mp hp
  rw [hversion] at hv
  rw [h.stageOf_eq] at hs
  rw [h.pathOf_eq] at hpath
  rw [h.apiPrefixOf_eq] at ha
  rw [hv, hverb, hs, hpath, ha]
  simp only [Result.ok_bind]
  split at hp
  · next hrouted =>
    rw [hmapping] at hp
    obtain ⟨pathMapping, hm, hp⟩ := Result.bind_eq_ok.mp hp
    cases hp
    rw [if_pos hrouted, hm]
    rfl
  · next hrouted =>
    cases hp
    rw [if_neg hrouted]
    rfl

end AlikeButVerb

section Headers

variable {fields : OrderedMap Value} (headers : Value)

/-- What an event says of its verb and of its path does not stand in its headers. -/
lemma methodOf_insert_headers :
    methodOf (.mapping (OrderedMap.insert "headers" headers fields)) =
      methodOf (.mapping fields) := by
  simp (disch := decide) only [methodOf, sectionOf, get_mapping, field_insert_of_ne]

lemma pathOf_insert_headers :
    pathOf (.mapping (OrderedMap.insert "headers" headers fields)) = pathOf (.mapping fields) := by
  simp (disch := decide) only [pathOf, rawPathOf, sectionOf, get_mapping, field_insert_of_ne]

end Headers

end ActionRouting.Gateway
