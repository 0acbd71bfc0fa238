import ActionRouting.Proofs.Gateway.OtherVerb
import ActionRouting.Proofs.Router.HeadAsGet
import ActionRouting.Proofs.Service.Replies

/-! Replies to `HEAD`. Where the router serves `HEAD` as it serves `GET`, and handlers do not look
at the verb, the two requests call one handler with the same result. So the reply to `HEAD` is that
to `GET` without its body. Only a stand-in that names the verb differs, and that in its body
alone. -/
namespace ActionRouting.Service

open Gateway

/-- A request without what tells its verb. -/
def Request.forgetVerb (q : Request) : Request :=
  { q with method := .null, route := none, event := .null }

def Call.forgetVerb (c : Call) : Call := { c with request := c.request.forgetVerb }

/-- The handlers that a service may call do not look at the verb. -/
def IgnoresVerb (answers : Answers) (router : Router) (next : Option Handler) : Prop :=
  ∀ h, Employs router next h → ∀ c c', c.forgetVerb = c'.forgetVerb →
    outcomeOf answers h c = outcomeOf answers h c'

/-- Responses alike in all but their bodies. -/
structure Response.AlikeButBody (r r' : Response) : Prop where
  status : r.status = r'.status
  contentType : r.contentType = r'.contentType
  headers : r.headers = r'.headers

/-- Outcomes that are the same, or responses alike in all but their bodies. -/
inductive Outcome.AlikeButBody : Outcome → Outcome → Prop
  | refl (o : Outcome) : AlikeButBody o o
  | response {r r' : Response} (h : r.AlikeButBody r') : AlikeButBody (.response r) (.response r')

structure Reply.HeadOf (x y : Reply) : Prop where
  status : x.status = y.status
  headers : x.headers = y.headers
  body : x.body = .text ""

lemma Response.AlikeButBody.refl (r : Response) : r.AlikeButBody r := ⟨rfl, rfl, rfl⟩

lemma alikeButBody_errorResponse (status : Status) (message message' : String) :
    (errorResponse status message).AlikeButBody (errorResponse status message') := ⟨rfl, rfl, rfl⟩

namespace Response.AlikeButBody

variable {r r' : Response} {reply : Reply}

/-- A reply always has its head. -/
lemma reply_head (h : r.AlikeButBody r') (hr : r'.reply false = .ok reply) :
    ∃ head, r.reply true = .ok head ∧ head.HeadOf reply := by
  obtain ⟨given, hgiven, hstatus, hheaders⟩ := r'.parts_of_reply hr
  rw [← h.headers] at hgiven
  rw [← h.status] at hstatus
  rw [← h.contentType] at hheaders
  have hempty : String.ofList (Text.Base64.encode (Text.Utf8.encode "".toList)) = "" := by
    decide +kernel
  cases hb : isBinary r.contentType with
  | false =>
    have hplain : ¬ (isBinary r.contentType ∨ (Body.text "").isText = false) := by
      simp [hb, Body.isText]
    exact ⟨_, reply_plain hgiven rfl hplain, hstatus.symm, hheaders.symm, rfl⟩
  | true =>
    exact ⟨_, reply_encoded hgiven rfl (.inl hb), hstatus.symm, hheaders.symm,
      congrArg Body.text hempty⟩

end Response.AlikeButBody

namespace Outcome.AlikeButBody

variable {o o' w : Outcome} {reply : Reply}

lemma reply_head (h : o.AlikeButBody o') (ho : o'.reply false = .ok reply) :
    ∃ head, o.reply true = .ok head ∧ head.HeadOf reply := by
  cases h with
  | refl =>
    cases o with
    | response r => exact (Response.AlikeButBody.refl r).reply_head ho
    | _ => cases ho
  | response h => exact h.reply_head ho

/-- The allowed verbs go into the headers of both. -/
lemma withAllow (h : o.AlikeButBody o') {allowed : List Verb}
    (ho : Api.withAllow allowed o' = .ok w) :
    ∃ w', Api.withAllow allowed o = .ok w' ∧ w'.AlikeButBody w := by
  cases h with
  | refl => exact ⟨w, ho, .refl w⟩
  | response h =>
    simp only [Api.withAllow] at ho ⊢
    obtain ⟨headers, hh, ho⟩ := Result.bind_eq_ok.mp ho
    cases ho
    rw [h.headers, hh]
    exact ⟨_, rfl, .response ⟨h.status, h.contentType, rfl⟩⟩

end Outcome.AlikeButBody

/-- Services that show handlers the same: they have the same address and the same URLs, and call the
same handler where no route matches. -/
structure Api.Alike (api api' : Api) : Prop where
  host : api.host = api'.host
  urlFor : api.urlFor = api'.urlFor
  nextHandler : api.nextHandler = api'.nextHandler

namespace Api.Alike

variable {api api' : Api} {answers : Answers} {router : Router} {q q' : Request}

/-- Calls for requests alike but for their verbs come to the same, stand-ins apart. -/
lemma alikeButBody_call (ha : api.Alike api') (hq : q.forgetVerb = q'.forgetVerb)
    (hi : IgnoresVerb answers router api'.nextHandler) {handler : Option Handler}
    (hh : ∀ h, handler = some h → Employs router api'.nextHandler h) {standIn standIn' : Response}
    (hs : standIn.AlikeButBody standIn') (allowed : Option (List Verb)) :
    (api.call answers handler standIn q allowed).1.AlikeButBody
      (api'.call answers handler standIn' q' allowed).1 := by
  cases handler with
  | none => exact .response hs
  | some h =>
    have hcall : (api.callOf q allowed).forgetVerb = (api'.callOf q' allowed).forgetVerb := by
      simp only [Call.forgetVerb, Api.callOf, hq, ha.host, ha.urlFor]
    rw [Api.call_some_fst, Api.call_some_fst, hi h (hh h rfl) _ _ hcall]
    exact .refl _

/-- The answer to `HEAD` has the head of the reply to `GET`, where both came to outcomes that call
for the same. -/
lemma answer_head (ha : api.Alike api') (hi : IgnoresVerb answers router api'.nextHandler)
    (hq : q.forgetVerb = q'.forgetVerb) (hhead : q.method = .text "HEAD")
    (hget : q'.method = .text "GET") {d d' : Disposition} (hd : d.Alike d')
    (hroute : router.dispatch q'.method q'.path = .ok d') {reply : Reply}
    (hr : (api'.answer answers router.config q' d').reply = .ok reply) :
    ∃ head, (api.answer answers router.config q d).reply = .ok head ∧ head.HeadOf reply := by
  have hverb : q.method.equal (.text "HEAD") = true := by rw [hhead]; decide
  have hverb' : q'.method.equal (.text "HEAD") = false := by rw [hget]; decide
  cases hd with
  | @matched m m' hhandler hargs hparams =>
    obtain ⟨v, hmem, hkind⟩ := Router.mem_of_dispatch hroute
    simp only [Api.answer, hverb, hverb', hhandler, hargs, hparams] at hr ⊢
    refine Outcome.AlikeButBody.reply_head (alikeButBody_call ha ?_ hi
      (fun h hh => .route hmem hkind hh) (alikeButBody_errorResponse ..) none) hr
    exact congrArg (fun q : Request => { q with params := m'.params, args := m'.args }) hq
  | notAllowed allowed =>
    simp only [Api.answer, hverb, hverb'] at hr ⊢
    obtain ⟨w, hw, hr⟩ := Result.bind_eq_ok.mp hr
    have hstandIn : (Api.methodNotAllowed q).AlikeButBody (Api.methodNotAllowed q') :=
      alikeButBody_errorResponse ..
    have hcall := alikeButBody_call ha hq hi (fun h hh => .refusal hh) hstandIn (some allowed)
    obtain ⟨w', hw', halike⟩ := hcall.withAllow hw
    obtain ⟨head, hhead, hof⟩ := halike.reply_head hr
    exact ⟨head, Result.bind_eq_ok.mpr ⟨w', hw', hhead⟩, hof⟩
  | unmatched =>
    simp only [Api.answer, hverb, hverb', ha.nextHandler] at hr ⊢
    exact Outcome.AlikeButBody.reply_head (alikeButBody_call ha hq hi (fun h hh => .next hh)
      (alikeButBody_errorResponse ..) none) hr

end Api.Alike

section Events

variable {fields fields' : OrderedMap Value}

/-- Alike events are alike with the names of their headers in lower case. What they say of the verb
and of the path stays. -/
lemma lowerHeaders_alike (h : AlikeButVerb fields fields') {low : OrderedMap Value}
    (hl : Api.withLowerHeaders (.mapping fields) = .ok low) :
    ∃ low', Api.withLowerHeaders (.mapping fields') = .ok low' ∧ AlikeButVerb low low' ∧
      methodOf (.mapping low) = methodOf (.mapping fields) ∧
      methodOf (.mapping low') = methodOf (.mapping fields') ∧
      pathOf (.mapping low) = pathOf (.mapping fields) := by
  simp only [Api.withLowerHeaders, h.get?_eq "headers" (by decide) (by decide)] at hl ⊢
  split at hl
  · cases hl
    exact ⟨_, rfl, h.insert (by decide) _, methodOf_insert_headers _, methodOf_insert_headers _,
      pathOf_insert_headers _⟩
  · cases hl

/-- The requests of alike events are alike but for their verbs. -/
lemma requestOf_alike (verb : Value) (h : AlikeButVerb fields fields') {p : RequestPath}
    {context : Value} {q : Request} (hq : Api.requestOf p (.mapping fields) context = .ok q) :
    ∃ q', Api.requestOf { p with method := verb } (.mapping fields') context = .ok q' ∧
      q'.method = verb ∧ q'.forgetVerb = q.forgetVerb := by
  have hquery : sectionOf (.mapping fields) "queryStringParameters" =
      sectionOf (.mapping fields') "queryStringParameters" :=
    h.sectionOf_eq (by decide) (by decide)
  have hheaders : (Value.mapping fields).index "headers" =
      (Value.mapping fields').index "headers" := by
    rw [Value.index, Value.index, h.get?_eq "headers" (by decide) (by decide)]
  have hbody : bodyOf (.mapping fields) = bodyOf (.mapping fields') := by
    simp (disch := decide) only [bodyOf, h.get_eq]
  unfold Api.requestOf at hq ⊢
  rw [hquery, hheaders, hbody] at hq
  obtain ⟨query, hquery, hq⟩ := Result.bind_eq_ok.mp hq
  obtain ⟨headers, hheaders, hq⟩ := Result.bind_eq_ok.mp hq
  obtain ⟨body, hbody, hq⟩ := Result.bind_eq_ok.mp hq
  cases hq
  rw [hquery, hheaders, hbody]
  exact ⟨_, rfl, rfl, rfl⟩

end Events

namespace Api

variable {answers : Answers} {router : Router} {fields fields' low : OrderedMap Value}
  {context : Value} {p : RequestPath} {q : Request}

def reading (api : Api) (fields : OrderedMap Value) (context : Value) (p : RequestPath) : Api :=
  { api with event := .mapping fields, context, requestPath := some p }

/-- A service that read one of two alike events shows handlers the same as one that read the
other. -/
lemma alike_reading (api : Api) (h : AlikeButVerb fields fields') (context : Value)
    (p : RequestPath) (verb : Value) :
    Alike (api.reading fields' context { p with method := verb })
      (api.reading fields context p) where
  host := by
    have hheaders : sectionOf (.mapping fields') "headers" =
        sectionOf (.mapping fields) "headers" := (h.sectionOf_eq (by decide) (by decide)).symm
    simp only [host, reading, hheaders]
    rfl
  urlFor := rfl
  nextHandler := rfl

/-- A request is replied to once its route was looked for. -/
lemma reply_respond (api : Api) (hr : api.router = .ok router) :
    (api.respond answers q).reply = (router.dispatch q.method q.path >>= fun d =>
      (api.answer answers router.config q d).reply) := by
  rw [respond, hr]
  dsimp only
  cases router.dispatch q.method q.path <;> rfl

/-- The reply to an event that has a path: the event is read, then its request is made and
answered. -/
lemma reply_handle_of_path (api : Api) (hl : withLowerHeaders (.mapping fields) = .ok low)
    (hp : RequestPath.ofEvent (.mapping low) = .ok p) (hn : p.path.isNull = false) :
    (api.handle answers (.mapping fields) context).reply =
      (requestOf p (.mapping low) context >>= fun q =>
        ((api.reading low context p).respond answers q).reply) := by
  rw [handle, hl]
  dsimp only
  rw [hp]
  dsimp only
  rw [if_neg (by rw [hn]; decide)]
  cases requestOf p (.mapping low) context <;> rfl

/-- Only an event that can be read gets a reply. -/
lemma exists_ofEvent_of_reply {api : Api} {reply : Reply}
    (h : (api.handle answers (.mapping fields) context).reply = .ok reply) :
    ∃ low p, withLowerHeaders (.mapping fields) = .ok low ∧
      RequestPath.ofEvent (.mapping low) = .ok p := by
  rw [handle] at h
  cases hl : withLowerHeaders (.mapping fields) with
  | error e =>
    rw [hl] at h
    cases h
  | ok low =>
    rw [hl] at h
    dsimp only at h
    cases hp : RequestPath.ofEvent (.mapping low) with
    | error e =>
      rw [hp] at h
      cases h
    | ok p => exact ⟨low, p, rfl, hp⟩

/-- After any calls that register texts, none for `HEAD` and `GET` once at most for each source, and
with handlers that do not look at the verb: where an event that has a path gets a reply to `GET`,
the event that is alike but asks for `HEAD` gets that reply without its body. -/
theorem handle_head (config : RouterConfig) (calls : List ActionRouting.Call)
    (ht : ∀ g ∈ (History.run config calls).log, g.pattern.spec.isTextual)
    (hl : Log.LeavesHead (History.run config calls).log) (api : Api)
    (hr : api.router = .ok (History.run config calls).router) (answers : Answers)
    (hi : IgnoresVerb answers (History.run config calls).router api.nextHandler)
    {get head : OrderedMap Value} (h : AlikeButVerb get head)
    (hget : methodOf (.mapping get) = .ok (.text "GET"))
    (hhead : methodOf (.mapping head) = .ok (.text "HEAD")) {path : Value}
    (hpath : pathOf (.mapping get) = .ok path) (hn : path.isNull = false) (context : Value)
    {reply : Reply} (hreply : (api.handle answers (.mapping get) context).reply = .ok reply) :
    ∃ reply', (api.handle answers (.mapping head) context).reply = .ok reply' ∧
      reply'.status = reply.status ∧ reply'.headers = reply.headers ∧ reply'.body = .text "" := by
  have hf := History.faithful_run config calls
  have hc := History.checked_run config calls
  generalize History.run config calls = history at *
  obtain ⟨low, p, hlow, hp⟩ := exists_ofEvent_of_reply hreply
  obtain ⟨low', hlow', halike, hmethod, hmethod', hsame⟩ := lowerHeaders_alike h hlow
  obtain ⟨hpm, hpp⟩ := RequestPath.of_ofEvent hp
  rw [hmethod, hget] at hpm
  rw [hsame, hpath] at hpp
  have hnull : p.path.isNull = false := Except.ok.inj hpp ▸ hn
  have hp' := halike.ofEvent_eq hp (hmethod'.trans hhead)
  rw [reply_handle_of_path api hlow hp hnull] at hreply
  rw [reply_handle_of_path api hlow' hp' hnull]
  obtain ⟨q, hq, hrespond⟩ := Result.bind_eq_ok.mp hreply
  obtain ⟨q', hq', hverb', hforget⟩ := requestOf_alike (.text "HEAD") halike hq
  obtain ⟨hqm, -⟩ := request_of_requestOf hq
  have hverb : q.method = .text "GET" := hqm.trans (Except.ok.inj hpm).symm
  have hqp : q'.path = q.path := (congrArg Request.path hforget :)
  rw [reply_respond (api.reading low context p) hr] at hrespond
  rw [hq', Result.ok_bind, reply_respond (api.reading low' context { p with method := _ }) hr]
  obtain ⟨d, hd, hanswer⟩ := Result.bind_eq_ok.mp hrespond
  obtain ⟨d', hd', hcalls⟩ := History.alike_dispatch_head hf hc ht hl (hverb ▸ hd)
  rw [hverb', hqp, hd', Result.ok_bind]
  obtain ⟨x, hx, hof⟩ := (alike_reading api halike context p (.text "HEAD")).answer_head hi
    hforget hverb' hverb hcalls hd hanswer
  exact ⟨x, hx, hof.status, hof.headers, hof.body⟩

def pageCalls : List ActionRouting.Call :=
  [.route (.text "/page/:name") (.controller { key := "Pages", actions := ["show"] }) .null .null,
    .route (.text "/notes") (.controller { key := "Notes", actions := ["create"] })
      (.text "create") (.text "POST")]

def pages : Api where router := .ok (History.run {} pageCalls).router

lemma leavesHead_pages : Log.LeavesHead (History.run {} pageCalls).log where
  no_head := by
    have hall : (History.run {} pageCalls).log.all (·.verb ≠ .head) := by decide +kernel
    intro g hg
    simpa using List.all_eq_true.mp hall g hg
  get_once := by
    have honce : (History.run {} pageCalls).log.countP (·.verb = .get) ≤ 1 := by decide +kernel
    intro s
    refine Nat.le_trans (List.countP_mono_left fun g _ hg => ?_) honce
    simp only [Registration.isFor, Bool.and_eq_true] at hg
    exact hg.1

/-- A handler that tells what it was sent does not look at the verb. -/
lemma ignoresVerb_echo (router : Router) (next : Option Handler) :
    IgnoresVerb echo router next := by
  intro h _ c c' hc
  have hbody : c.request.body = c'.request.body := (congrArg (·.request.body) hc :)
  rw [outcomeOf, outcomeOf, echo, echo, hbody]

def greeting (path : String) : OrderedMap Value := [("path", .text path), ("body", .text "hi")]

theorem handle_head_of_page :
    (∃ reply reply',
      (pages.handle echo (.mapping (withVerb "GET" (greeting "/page/a"))) .null).reply =
        .ok reply ∧ reply.status.equal (.int 200) ∧ reply.body = .text "hi" ∧
      (pages.handle echo (.mapping (withVerb "HEAD" (greeting "/page/a"))) .null).reply =
        .ok reply' ∧ reply'.status = reply.status ∧ reply'.headers = reply.headers ∧
        reply'.body = .text "") ∧
    ∃ reply reply',
      (pages.handle echo (.mapping (withContextVerb "GET" (greeting "/notes"))) .null).reply =
        .ok reply ∧ reply.status.equal (.int 405) ∧
      (pages.handle echo (.mapping (withContextVerb "HEAD" (greeting "/notes"))) .null).reply =
        .ok reply' ∧ reply'.status = reply.status ∧ reply'.headers = reply.headers ∧
        reply'.body = .text "" := by
  have ht : (History.run {} pageCalls).log.all (·.pattern.spec.isTextual) := by decide +kernel
  have hpage : (pages.handle echo (.mapping (withVerb "GET" (greeting "/page/a")))
      .null).reply.toOption.any fun reply =>
        reply.status.equal (.int 200) && reply.body.text? == some "hi" := by decide +kernel
  have hnotes : (pages.handle echo (.mapping (withContextVerb "GET" (greeting "/notes")))
      .null).reply.toOption.any fun reply => reply.status.equal (.int 405) := by
    decide +kernel
  constructor
  · cases hreply : (pages.handle echo (.mapping (withVerb "GET" (greeting "/page/a")))
      .null).reply with
    | error e =>
      rw [hreply] at hpage
      cases hpage
    | ok reply =>
      rw [hreply] at hpage
      simp only [Except.toOption, Option.any_some, Bool.and_eq_true, beq_iff_eq] at hpage
      obtain ⟨reply', hreply', hsame⟩ := handle_head {} pageCalls (List.all_eq_true.mp ht)
        leavesHead_pages pages rfl echo (ignoresVerb_echo _ _)
        (alikeButVerb_withVerb "GET" "HEAD" _) rfl rfl (rfl : pathOf _ = .ok (.text "/page/a")) rfl
        .null hreply
      exact ⟨reply, reply', rfl, hpage.1, Body.text?_eq_some.mp hpage.2, hreply', hsame⟩
  · cases hreply : (pages.handle echo (.mapping (withContextVerb "GET" (greeting "/notes")))
      .null).reply with
    | error e =>
      rw [hreply] at hnotes
      cases hnotes
    | ok reply =>
      rw [hreply] at hnotes
      obtain ⟨reply', hreply', hsame⟩ := handle_head {} pageCalls (List.all_eq_true.mp ht)
        leavesHead_pages pages rfl echo (ignoresVerb_echo _ _)
        (alikeButVerb_withContextVerb "GET" "HEAD" _) rfl rfl
        (rfl : pathOf _ = .ok (.text "/notes")) rfl .null hreply
      exact ⟨reply, reply', rfl, hnotes, hreply', hsame⟩

end Api

end ActionRouting.Service
