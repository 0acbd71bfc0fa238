import ActionRouting.Service.Api
import ActionRouting.Proofs.Gateway.Events
import ActionRouting.Proofs.Router.History
import ActionRouting.Proofs.Service.Transport

/-! When the service replies to an event. Handlers cannot keep it from replying, whatever they
raise, and neither can a missing path; but an event that cannot be read, a body that cannot be
decoded and a match that cannot be told do, as nothing there stands in for the reply. -/
namespace ActionRouting

namespace Router

variable {r : Router}

lemma mem_of_firstMatch {cs : List Char} {t : Table} {e : RouteEntry} {m : Regex.Match}
    (h : firstMatch cs t = some (e, m)) : e ∈ t.map (·.2) := by
  induction t with
  | nil => cases h
  | cons p t ih =>
    rw [firstMatch] at h
    split at h
    · cases h
      exact List.mem_cons_self
    · exact List.mem_cons_of_mem _ (ih h)

/-- A verb and a path that are no other values lead to an outcome or cross a capture group. -/
lemma dispatch_of_isString {verb path : Value} (hv : verb.isString) (hp : path.isText) :
    (∃ d, r.dispatch verb path = .ok d) ∨ r.dispatch verb path = .error .crossedGroup := by
  obtain ⟨path, rfl⟩ := Value.isText_iff.mp hp
  cases verb with
  | text verb =>
    simp only [dispatch]
    cases Verb.ofName? (Text.upper verb) with
    | none => exact Or.inl ⟨_, rfl⟩
    | some v =>
      dsimp only
      split
      · exact Or.inr rfl
      · exact Or.inl ⟨_, rfl⟩
  | bytes bs => exact Or.inl ⟨_, rfl⟩
  | _ => cases hv

/-- The entry that a request takes is one of a table, and no fallback. -/
lemma mem_of_dispatch {verb path : Value} {m : Matched}
    (h : r.dispatch verb path = .ok (.matched m)) :
    ∃ v, m.entry ∈ (r.table v).map (·.2) ∧ m.entry.kind ≠ .fallback := by
  unfold dispatch at h
  split at h
  · next path =>
    split at h
    · next verb =>
      split at h
      · next v hv =>
        dsimp only at h
        split at h
        · cases h
        · cases hf : r.found v path with
          | none =>
            rw [hf] at h
            cases h
          | some p =>
            obtain ⟨e, g⟩ := p
            rw [hf, outcome] at h
            split at h
            · cases h
            · next hk =>
              cases h
              exact ⟨v, mem_of_firstMatch hf, hk⟩
      · cases h
    · cases h
    · cases h
  · cases h

end Router

namespace Service

open Gateway

/-- A response with a body that bytes spell, and with headers that are a mapping if there are
any. -/
structure Response.IsProper (r : Response) : Prop where
  body : (bodyBytes r.body).isOk
  headers : r.headers.isMappingOrNull

def Outcome.IsProper : Outcome → Prop
  | .response r => r.IsProper
  | .raised _ => True
  | _ => False

/-- What comes of a handler: of a plain value what its kind has, of any other what it answers. -/
def outcomeOf (answers : Answers) (h : Handler) (c : Call) : Outcome :=
  (plainOutcome? h).getD (answers h c)

/-- The handlers that a service may call: those of its routes, the one that refuses other verbs and
the one that takes what no route matches. -/
inductive Employs (router : Router) (next : Option Handler) : Handler → Prop
  | route {v : Verb} {e : RouteEntry} {h : Handler} (he : e ∈ (router.table v).map (·.2))
      (hk : e.kind ≠ .fallback) (hh : e.handler = some h) : Employs router next h
  | refusal {h : Handler} (hh : router.config.refusal? = some h) : Employs router next h
  | next {h : Handler} (hh : next.filter (!·.isEmpty) = some h) : Employs router next h

/-- Every handler that a service may call fails or gives a proper response, whatever the call. -/
def AreProper (answers : Answers) (router : Router) (next : Option Handler) : Prop :=
  ∀ h, Employs router next h → ∀ c, (outcomeOf answers h c).IsProper

/-- An encoded body has a text: it is in base 64, of bytes that spell one. -/
def decodes (cs : List Char) : Bool :=
  cs.all Text.isAscii &&
    (Text.Base64.decode? (cs.map Char.toNat)).any fun bytes => (Text.Utf8.decode? bytes).isSome

/-- The body of an event can be read: it is not encoded, or it can be decoded. -/
def givesBody (fields : OrderedMap Value) : Bool :=
  !((field fields "body").truthy && (field fields "isBase64Encoded").truthy) ||
    decodes (field fields "body").chars

/-- The match that an event leads to has a crossed capture group. -/
def Crosses (router : Router) (fields : OrderedMap Value) : Prop :=
  ∃ verb path, methodOf (.mapping fields) = .ok verb ∧ pathOf (.mapping fields) = .ok path ∧
    router.dispatch verb path = .error .crossedGroup

section Responses

variable {r : Response}

/-- Every proper response makes a reply. -/
lemma Response.IsProper.isOk_reply (hr : r.IsProper) (head : Bool) : (r.reply head).isOk := by
  have hbody : (bodyBytes (if head then .text "" else r.body)).isOk := by
    split
    · rfl
    · exact hr.body
  have hgiven : (r.headers.orElse (.mapping [])).toShownMapping = .ok r.headers.fields := by
    rw [Value.orElse_mapping hr.headers, Value.toShownMapping]
  obtain ⟨bytes, hbytes⟩ := Result.isOk_iff.mp hbody
  by_cases he : isBinary r.contentType ∨
      (if head then Body.text "" else r.body).isText = false
  · rw [reply_encoded hgiven rfl he, hbytes]
    rfl
  · rw [reply_plain hgiven rfl he]
    rfl

lemma isProper_errorResponse (status : Status) (message : String) :
    (errorResponse status message).IsProper := ⟨rfl, rfl⟩

/-- The allowed verbs go into the headers of any proper response. -/
lemma Response.IsProper.withAllow (hr : r.IsProper) (allowed : List Verb) :
    ∃ r', Api.withAllow allowed (.response r) = .ok (.response r') ∧ r'.IsProper := by
  simp only [Api.withAllow, Value.orElse_mapping hr.headers, Value.toShownMapping, Result.ok_bind]
  exact ⟨_, rfl, hr.body, rfl⟩

end Responses

namespace Api

variable (api : Api) {answers : Answers} {router : Router}

/-- What a call of a handler comes to: a failure becomes an error response, and all else stays. -/
lemma call_some_fst (h : Handler) (standIn : Response) (request : Request)
    (allowed : Option (List Verb)) :
    (api.call answers (some h) standIn request allowed).1 =
      match outcomeOf answers h (api.callOf request allowed) with
      | .raised message => .response (errorResponse .internalServerError message)
      | outcome => outcome := by
  simp only [call, outcomeOf]
  cases plainOutcome? h with
  | some outcome => cases outcome <;> rfl
  | none =>
    dsimp only [Option.getD_none]
    cases answers h (api.callOf request allowed) <;> rfl

/-- A call comes to a proper response, if the handler is proper or there is none. -/
lemma call_response {handler : Option Handler} {standIn : Response} (hs : standIn.IsProper)
    (hp : ∀ h, handler = some h → ∀ c, (outcomeOf answers h c).IsProper) (request : Request)
    (allowed : Option (List Verb)) :
    ∃ r, (api.call answers handler standIn request allowed).1 = .response r ∧ r.IsProper := by
  cases handler with
  | none => exact ⟨standIn, rfl, hs⟩
  | some h =>
    have hproper := hp h rfl (api.callOf request allowed)
    rw [call_some_fst]
    cases ho : outcomeOf answers h (api.callOf request allowed) with
    | response r =>
      rw [ho] at hproper
      exact ⟨r, rfl, hproper⟩
    | raised message => exact ⟨_, rfl, isProper_errorResponse _ _⟩
    | _ =>
      rw [ho] at hproper
      cases hproper

lemma isOk_reply_call {handler : Option Handler} {standIn : Response} (hs : standIn.IsProper)
    (hp : ∀ h, handler = some h → ∀ c, (outcomeOf answers h c).IsProper) (request : Request)
    (allowed : Option (List Verb)) (head : Bool) :
    ((api.call answers handler standIn request allowed).1.reply head).isOk := by
  obtain ⟨r, hr, hproper⟩ := call_response api hs hp request allowed
  rw [hr]
  exact hproper.isOk_reply head

/-- Whatever a request leads to, the service replies, if the handlers that it employs are proper. -/
lemma isOk_answer (hp : AreProper answers router api.nextHandler) (request : Request)
    {d : Disposition}
    (hd : router.dispatch request.method request.path = .ok d) :
    (api.answer answers router.config request d).reply.isOk := by
  cases d with
  | matched m =>
    obtain ⟨v, hmem, hkind⟩ := Router.mem_of_dispatch hd
    exact isOk_reply_call api (isProper_errorResponse _ _)
      (fun h hh => hp h (.route hmem hkind hh)) _ none _
  | notAllowed allowed =>
    have hrefusal : (methodNotAllowed request).IsProper := isProper_errorResponse _ _
    obtain ⟨r, hr, hproper⟩ :=
      call_response api hrefusal (fun h hh => hp h (.refusal hh)) request (some allowed)
    obtain ⟨r', hr', hproper'⟩ := hproper.withAllow allowed
    change (withAllow allowed (api.call ..).1 >>= fun outcome => outcome.reply _).isOk
    rw [hr, hr', Result.ok_bind]
    exact hproper'.isOk_reply _
  | unmatched =>
    exact isOk_reply_call api (isProper_errorResponse _ _) (fun h hh => hp h (.next hh)) request
      none _

end Api

section Reading

variable {fields : OrderedMap Value}

lemma isOk_decodeBytes {codes : List Nat} : (decodeBytes codes).isOk =
    (Text.Base64.decode? codes).any fun bytes => (Text.Utf8.decode? bytes).isSome := by
  rw [decodeBytes]
  cases Text.Base64.decode? codes with
  | none => rfl
  | some bytes =>
    dsimp only [Option.any_some]
    cases Text.Utf8.decode? bytes <;> rfl

/-- The body of an event can be read if and only if it is not encoded or can be decoded. -/
lemma isOk_bodyOf (he : IsEvent fields) : (bodyOf (.mapping fields)).isOk = givesBody fields := by
  have hbody := he.texts "body" (by decide)
  simp only [bodyOf, get_mapping, Result.ok_bind, givesBody]
  cases hencoded : (field fields "body").truthy && (field fields "isBase64Encoded").truthy with
  | false => rfl
  | true =>
    rw [Bool.and_eq_true] at hencoded
    cases hb : field fields "body" with
    | text s =>
      simp only [if_true, Value.chars, decodes, Bool.not_true, Bool.false_or, ← isOk_decodeBytes]
      cases s.toList.all Text.isAscii <;> rfl
    | null =>
      rw [hb] at hencoded
      exact absurd hencoded.1 (by decide)
    | _ =>
      rw [hb] at hbody
      cases hbody

def lowered (fields : OrderedMap Value) : OrderedMap Value :=
  OrderedMap.insert "headers"
    (.mapping (OrderedMap.ofPairs ((fieldsOf fields "headers").map fun p => (Text.lower p.1, p.2))))
    fields

lemma withLowerHeaders_mapping (he : IsEvent fields) :
    Api.withLowerHeaders (.mapping fields) = .ok (lowered fields) := by
  have hheaders : ((OrderedMap.get? "headers" fields).getD .null).orElse (.mapping []) =
      .mapping (fieldsOf fields "headers") :=
    Value.orElse_mapping (he.mappings "headers" (by decide))
  simp only [Api.withLowerHeaders, hheaders]
  rfl

lemma field_lowered {key : String} (h : "headers" ≠ key) :
    field (lowered fields) key = field fields key := by
  rw [field, lowered, OrderedMap.get?_insert_of_ne h, field]

lemma field_lowered_headers : field (lowered fields) "headers" =
    .mapping (OrderedMap.ofPairs ((fieldsOf fields "headers").map fun p =>
      (Text.lower p.1, p.2))) := by
  rw [field, lowered, OrderedMap.get?_insert_self, Option.getD_some]

/-- Names of headers in lower case leave an event an event. -/
lemma isEvent_lowered (he : IsEvent fields) : IsEvent (lowered fields) where
  texts := by
    intro key hkey
    rw [field_lowered (by rintro rfl; revert hkey; decide)]
    exact he.texts key hkey
  mappings := by
    intro key hkey
    by_cases hk : "headers" = key
    · rw [← hk, field_lowered_headers]
      rfl
    · rw [field_lowered hk]
      exact he.mappings key hkey
  headers := by
    intro p hp
    rw [fieldsOf, field_lowered_headers] at hp
    obtain ⟨q, hq, rfl⟩ := List.mem_map.mp (OrderedMap.mem_ofPairs hp)
    exact he.headers q hq

/-- What is read of the verb, the path and the body does not depend on the names of headers. -/
lemma methodOf_lowered (he : IsEvent fields) :
    methodOf (.mapping (lowered fields)) = methodOf (.mapping fields) := by
  rw [methodOf_mapping he, methodOf_mapping (isEvent_lowered he)]
  simp (disch := decide) only [verbField?, fieldsOf, field_lowered]

lemma pathOf_lowered (he : IsEvent fields) :
    pathOf (.mapping (lowered fields)) = pathOf (.mapping fields) := by
  rw [pathOf_mapping he, pathOf_mapping (isEvent_lowered he)]
  simp (disch := decide) only [proxy?, pathField, taken, fieldsOf, field_lowered]

/-- An event can be read with the names of its headers in lower case if and only if its verb and its
path can be read. -/
lemma isOk_ofEvent_lowered (he : IsEvent fields) :
    (RequestPath.ofEvent (.mapping (lowered fields))).isOk ↔
      givesVerb fields ∧ givesTail fields := by
  have hel := isEvent_lowered he
  rw [RequestPath.isOk_ofEvent hel, ← isOk_methodOf hel, ← isOk_pathOf hel, methodOf_lowered he,
    pathOf_lowered he, isOk_methodOf he, isOk_pathOf he]

/-- What is read of an event tells whether its match has a crossed capture group. -/
lemma crosses_iff {router : Router} {verb path : Value}
    (hv : methodOf (.mapping fields) = .ok verb) (hp : pathOf (.mapping fields) = .ok path) :
    Crosses router fields ↔ router.dispatch verb path = .error .crossedGroup := by
  constructor
  · rintro ⟨verb', path', hv', hp', h⟩
    rw [hv] at hv'
    rw [hp] at hp'
    cases hv'
    cases hp'
    exact h
  · intro h
    exact ⟨verb, path, hv, hp, h⟩

lemma givesBody_lowered : givesBody (lowered fields) = givesBody fields := by
  simp (disch := decide) only [givesBody, field_lowered]

/-- The request of an event can be made if and only if the body can be read. -/
lemma isOk_requestOf (he : IsEvent fields) (p : RequestPath) (context : Value) :
    (Api.requestOf p (.mapping (lowered fields)) context).isOk = givesBody fields := by
  rw [← givesBody_lowered, ← isOk_bodyOf (isEvent_lowered he)]
  have hheaders : (Value.mapping (lowered fields)).index "headers" =
      .ok (field (lowered fields) "headers") := by
    simp only [Value.index, lowered, OrderedMap.get?_insert_self, field, Option.getD_some]
  simp only [Api.requestOf, sectionOf, get_mapping, hheaders, pure, Except.pure, Result.ok_bind]
  cases bodyOf (.mapping (lowered fields)) <;> rfl

lemma request_of_requestOf {p : RequestPath} {event context : Value} {request : Request}
    (h : Api.requestOf p event context = .ok request) :
    request.method = p.method ∧ request.path = p.path := by
  unfold Api.requestOf at h
  obtain ⟨query, -, h⟩ := Result.bind_eq_ok.mp h
  obtain ⟨headers, -, h⟩ := Result.bind_eq_ok.mp h
  obtain ⟨body, -, h⟩ := Result.bind_eq_ok.mp h
  cases h
  exact ⟨rfl, rfl⟩

end Reading

namespace Api

variable (api : Api) {answers : Answers} {router : Router}

/-- A request gets its reply unless it leads to a crossed capture group. -/
lemma isOk_respond (hr : api.router = .ok router)
    (hp : AreProper answers router api.nextHandler)
    {request : Request} (hv : request.method.isString) (ht : request.path.isText) :
    (api.respond answers request).reply.isOk ↔
      router.dispatch request.method request.path ≠ .error .crossedGroup := by
  simp only [respond, hr]
  rcases Router.dispatch_of_isString (r := router) hv ht with ⟨d, hd⟩ | hcrossed
  · simp only [hd]
    exact ⟨fun _ => nofun, fun _ => isOk_answer api hp request hd⟩
  · simp only [hcrossed]
    exact ⟨nofun, fun h => absurd rfl h⟩

/-- The reply to an event, step by step. -/
lemma reply_handle {fields : OrderedMap Value} (he : IsEvent fields) (context : Value) :
    (api.handle answers (.mapping fields) context).reply =
      (do
        let p ← RequestPath.ofEvent (.mapping (lowered fields))
        if p.path.isNull then (errorResponse .badRequest "Missing or invalid path").reply false
        else
          let request ← requestOf p (.mapping (lowered fields)) context
          ({ api with event := .mapping (lowered fields), context, requestPath := some p }.respond
            answers request).reply) := by
  simp only [handle, withLowerHeaders_mapping he]
  cases RequestPath.ofEvent (.mapping (lowered fields)) with
  | error e => rfl
  | ok p =>
    simp only [Result.ok_bind]
    split
    · rfl
    · cases requestOf p (.mapping (lowered fields)) context <;> rfl

/-- An event that names a path gets its reply if and only if its body can be read and its match can
be told. -/
lemma isOk_routed (hr : api.router = .ok router)
    (hp : AreProper answers router api.nextHandler)
    {fields : OrderedMap Value} (he : IsEvent fields) (context : Value) {p : RequestPath}
    (hv : p.method.isString) (ht : p.path.isText) :
    (requestOf p (.mapping (lowered fields)) context >>= fun request =>
      (api.respond answers request).reply).isOk ↔
        givesBody fields ∧ router.dispatch p.method p.path ≠ .error .crossedGroup := by
  have hbody := isOk_requestOf he p context
  cases hq : requestOf p (.mapping (lowered fields)) context with
  | error e =>
    rw [hq] at hbody
    exact ⟨nofun, fun h => hbody.trans h.1⟩
  | ok request =>
    rw [hq] at hbody
    obtain ⟨hm, hpath⟩ := request_of_requestOf hq
    rw [← hm] at hv ⊢
    rw [← hpath] at ht ⊢
    rw [Result.ok_bind, isOk_respond api hr hp hv ht]
    exact ⟨fun h => ⟨hbody.symm, h⟩, And.right⟩

/-- The service replies to an event, once its handlers are proper, if and only if its verb and its
path can be read, its body can be decoded, and its path does not lead to a match with a crossed
capture group. An event without a path gets its reply before the body is looked at. -/
theorem handle_replies_iff (api : Api) (answers : Answers) {router : Router}
    (hr : api.router = .ok router)
    (hproper : AreProper answers router api.nextHandler)
    {fields : OrderedMap Value} (he : IsEvent fields) (context : Value) :
    (∃ reply, (api.handle answers (.mapping fields) context).reply = .ok reply) ↔
      givesVerb fields ∧ givesTail fields ∧ (namesPath fields → givesBody fields) ∧
        ¬ Crosses router fields := by
  have hread := isOk_ofEvent_lowered he
  rw [← Result.isOk_iff, reply_handle api he]
  cases hp : RequestPath.ofEvent (.mapping (lowered fields)) with
  | error e =>
    rw [hp] at hread
    exact ⟨nofun, fun h => hread.mpr ⟨h.1, h.2.1⟩⟩
  | ok p =>
    rw [hp] at hread
    obtain ⟨hverb, htail⟩ := hread.mp rfl
    obtain ⟨hmethod, hpath⟩ := RequestPath.of_ofEvent hp
    rw [methodOf_lowered he] at hmethod
    rw [pathOf_lowered he] at hpath
    have hkind := path_of_pathOf he hpath
    rw [Result.ok_bind, crosses_iff hmethod hpath]
    cases hn : namesPath fields with
    | false =>
      rw [if_neg (by rw [hn]; decide)] at hkind
      rw [hkind]
      have hnull : ¬ router.dispatch p.method .null = .error .crossedGroup := nofun
      exact ⟨fun _ => ⟨hverb, htail, nofun, hnull⟩,
        fun _ => (isProper_errorResponse _ _).isOk_reply false⟩
    | true =>
      rw [if_pos hn] at hkind
      have hsome : ¬ p.path.isNull := by
        obtain ⟨s, hs⟩ := Value.isText_iff.mp hkind
        rw [hs]
        exact nofun
      have hrouted := isOk_routed
        { api with event := .mapping (lowered fields), context, requestPath := some p } hr hproper
        he context (isString_of_methodOf he hmethod) hkind
      rw [if_neg hsome, hrouted]
      exact ⟨fun h => ⟨hverb, htail, fun _ => h.1, h.2⟩, fun h => ⟨h.2.2.1 rfl, h.2.2.2⟩⟩

def notesRouter : Router :=
  (History.run {} [.route (.text "/notes") (.controller { key := "Notes", actions := ["create"] })
    (.text "create") (.text "POST")]).router

def notes : Api where router := .ok notesRouter

def echo : Answers := fun _ c =>
  .response { status := .int Status.ok.code, contentType := .text "text/plain",
              body := .text c.request.body.display }

def note (body : String) : OrderedMap Value :=
  [("httpMethod", .text "POST"), ("path", .text "/notes"), ("body", .text body),
    ("isBase64Encoded", .bool true)]

/-- No handler of the service is a plain value, so each tells what it was sent. -/
lemma areProper_echo : AreProper echo notesRouter notes.nextHandler := by
  intro h hh c
  have hplain : plainOutcome? h = none := by
    cases hh with
    | @route v e h he hk hh =>
      have hall : Verb.all.all fun v => (notesRouter.table v).all fun p =>
          p.2.handler.all fun h => (plainOutcome? h).isNone := by decide +kernel
      obtain ⟨q, hq, rfl⟩ := List.mem_map.mp he
      have hv := List.all_eq_true.mp (List.all_eq_true.mp hall v v.mem_all) q hq
      rw [hh, Option.all_some] at hv
      exact Option.isNone_iff_eq_none.mp hv
    | refusal hh =>
      have hnone : notesRouter.config.refusal?.isNone := by decide +kernel
      rw [hh] at hnone
      cases hnone
    | next hh => cases hh
  rw [outcomeOf, hplain]
  exact ⟨rfl, rfl⟩

theorem handle_replies_to_note :
    (∃ reply, (notes.handle echo (.mapping (note "aGk=")) .null).reply = .ok reply) ∧
      ¬ ∃ reply, (notes.handle echo (.mapping (note "/w==")) .null).reply = .ok reply := by
  constructor
  · rw [handle_replies_iff notes echo rfl areProper_echo ⟨by decide, by decide, by decide⟩]
    refine ⟨by decide +kernel, by decide +kernel, fun _ => by decide +kernel, fun h => ?_⟩
    have hcrossed : notesRouter.dispatch (.text "POST") (.text "/notes") = .error .crossedGroup :=
      (crosses_iff rfl rfl).mp h
    have hroute : (notesRouter.dispatch (.text "POST") (.text "/notes")).isOk := by decide +kernel
    rw [hcrossed] at hroute
    cases hroute
  · rw [handle_replies_iff notes echo rfl areProper_echo ⟨by decide, by decide, by decide⟩]
    rintro ⟨-, -, hbody, -⟩
    exact absurd (hbody (by decide +kernel)) (by decide +kernel)

end Api

end Service

end ActionRouting
