import ActionRouting.Service.Body
import ActionRouting.Proofs.Text.Base64
import ActionRouting.Proofs.Value.Kinds

/-! Bodies are sent without loss. A reply holds the bytes of its response in base 64 or the text of
its response, and says which; an event that carries the body of the reply and says the same is read
as the text of the response, if it has one. Only a text that no bytes spell cannot be sent in base
64. -/
namespace ActionRouting.Service

open Text

def Body.isString : Body → Bool
  | .bytes _ => true
  | b => b.isText

/-- The characters of a body: its own, or those that its bytes spell. -/
def bodyText? : Body → Option String
  | .text s => some s
  | .bytes bs => (Utf8.decode? bs).map String.ofList
  | _ => none

/-- The body of the response would go in base 64, but no bytes spell it. -/
def Response.IsTorn (r : Response) : Prop :=
  (∃ t ∈ binaryTypes, r.contentType.equal (.text t)) ∧ ∃ t, r.body = .torn t

/-- An event carries the body of a reply, and says whether it is encoded. -/
structure Reply.IsCarriedBy (reply : Reply) (event : Value) : Prop where
  body : ∃ s, reply.body = .text s ∧ event.get "body" = .ok (.text s)
  flag : ∃ v, event.get "isBase64Encoded" = .ok v ∧ v.truthy = reply.isBase64

variable {r : Response} {reply : Reply} {event : Value} {body : Body} {bytes : List UInt8}

lemma bodyText?_of_bodyBytes (h : bodyBytes body = .ok bytes) :
    bodyText? body = (Utf8.decode? bytes).map String.ofList := by
  unfold bodyBytes at h
  split at h
  · cases h
    rw [Utf8.decode?_encode, Option.map_some, String.ofList_toList]
    rfl
  · cases h
    rfl
  · cases h
  · cases h

/-- Of texts and bytes, only texts that no bytes spell have none. -/
lemma exists_bodyBytes (hb : body.isString) (hn : ∀ t, body ≠ .torn t) :
    ∃ bytes, bodyBytes body = .ok bytes := by
  cases body with
  | torn t => exact absurd rfl (hn t)
  | value v =>
    cases v with
    | text s => exact ⟨_, rfl⟩
    | bytes bs => exact ⟨_, rfl⟩
    | _ => cases hb

lemma exists_eq_bytes_iff (hb : body.isString) :
    (∃ bs, body = .bytes bs) ↔ body.isText = false := by
  unfold Body.isString at hb
  split at hb
  · next bs => exact ⟨fun _ => rfl, fun _ => ⟨bs, rfl⟩⟩
  · next hno =>
    exact ⟨fun ⟨bs, he⟩ => absurd he (hno bs), fun ht => absurd (hb.symm.trans ht) nofun⟩

lemma isBinary_iff {contentType : Value} :
    isBinary contentType ↔ ∃ t ∈ binaryTypes, contentType.equal (.text t) := by
  rw [isBinary, List.any_eq_true]

/-- What is read of bytes that were encoded is the text that they spell. -/
lemma decodeBytes_encode (bytes : List UInt8) :
    decodeBytes ((Base64.encode bytes).map Char.toNat) =
      ((Utf8.decode? bytes).map String.ofList).elim (.error .notUtf8) (.ok ∘ .text) := by
  rw [decodeBytes, Base64.decode?_encode]
  dsimp only
  cases Utf8.decode? bytes <;> rfl

/-- A body that is not encoded is read as it is. -/
lemma Reply.IsCarriedBy.bodyOf_plain (h : reply.IsCarriedBy event) (hp : reply.isBase64 = false) :
    ∃ s, reply.body = .text s ∧ bodyOf event = .ok (.text s) := by
  obtain ⟨s, hs, hbody⟩ := h.body
  obtain ⟨v, hv, ht⟩ := h.flag
  exact ⟨s, hs, by simp [bodyOf, hbody, hv, ht, hp, pure, Except.pure]⟩

/-- A body that is encoded is read as the text that its bytes spell. No bytes are not decoded, as
the body is empty then. -/
lemma Reply.IsCarriedBy.bodyOf_encoded (h : reply.IsCarriedBy event) (he : reply.isBase64)
    (hb : reply.body = .text (String.ofList (Base64.encode bytes))) :
    bodyOf event =
      ((Utf8.decode? bytes).map String.ofList).elim (.error .notUtf8) (.ok ∘ .text) := by
  obtain ⟨s, hs, hbody⟩ := h.body
  obtain ⟨v, hv, ht⟩ := h.flag
  obtain rfl : s = String.ofList (Base64.encode bytes) := by
    rw [hs] at hb
    cases hb
    rfl
  by_cases hnil : bytes = []
  · subst hnil
    have hempty : String.ofList (Base64.encode []) = "" := rfl
    simp only [bodyOf, hbody, hv, hempty, Value.truthy, Result.ok_bind]
    rfl
  · have htruthy : (Value.text (String.ofList (Base64.encode bytes))).truthy := by
      simpa [Value.truthy] using mt Base64.encode_eq_nil.mp hnil
    have hascii : (String.ofList (Base64.encode bytes)).toList.all isAscii := by
      rw [String.toList_ofList]
      exact Base64.isAscii_encode bytes
    rw [← decodeBytes_encode]
    simp only [bodyOf, hbody, hv, Result.ok_bind, htruthy, ht, he, hascii, Bool.and_self, if_true]
    rw [String.toList_ofList]

section Replying

variable {head : Bool} {given : OrderedMap Value}

/-- A body goes in base 64 if the content type asks for it or the body is no text. -/
lemma Response.reply_encoded (hh : (r.headers.orElse (.mapping [])).toShownMapping = .ok given)
    (hbody : (if head then .text "" else r.body) = body)
    (he : isBinary r.contentType ∨ body.isText = false) :
    r.reply head = (bodyBytes body).map fun bytes =>
      { status := r.status, headers := OrderedMap.insert "Content-Type" r.contentType given,
        body := .text (String.ofList (Base64.encode bytes)), isBase64 := true } := by
  have hencoded : (isBinary r.contentType || !body.isText) = true := by
    rcases he with he | he <;> simp [he]
  simp only [Response.reply, hh, Result.ok_bind, hbody, hencoded, if_true]
  cases bodyBytes body <;> rfl

/-- Else a text goes as it is. -/
lemma Response.reply_plain (hh : (r.headers.orElse (.mapping [])).toShownMapping = .ok given)
    (hbody : (if head then .text "" else r.body) = body)
    (hp : ¬ (isBinary r.contentType ∨ body.isText = false)) :
    r.reply head = .ok
      { status := r.status, headers := OrderedMap.insert "Content-Type" r.contentType given,
        body } := by
  obtain ⟨hplain, htext⟩ := not_or.mp hp
  rw [Bool.not_eq_true] at hplain
  rw [Bool.not_eq_false] at htext
  simp only [Response.reply, hh, Result.ok_bind, hbody, hplain, htext]
  rfl

/-- Whatever becomes of its body, a response gives a reply its status and its headers. -/
lemma Response.parts_of_reply (h : r.reply head = .ok reply) :
    ∃ given, (r.headers.orElse (.mapping [])).toShownMapping = .ok given ∧
      reply.status = r.status ∧
      reply.headers = OrderedMap.insert "Content-Type" r.contentType given := by
  obtain ⟨given, hgiven, -⟩ := Result.bind_eq_ok.mp (show (_ >>= _) = _ from h)
  refine ⟨given, hgiven, ?_⟩
  generalize hbody : (if head then .text "" else r.body) = body
  by_cases he : isBinary r.contentType ∨ body.isText = false
  · rw [reply_encoded hgiven hbody he] at h
    cases hsent : bodyBytes body with
    | error e =>
      rw [hsent] at h
      cases h
    | ok bytes =>
      rw [hsent] at h
      cases h
      exact ⟨rfl, rfl⟩
  · rw [reply_plain hgiven hbody he] at h
    cases h
    exact ⟨rfl, rfl⟩

end Replying

/-- A response with a text or bytes for its body makes a reply, unless its body is torn and would go
in base 64. The reply says that it is encoded if and only if the content type is a binary one or the
body is bytes. Decoded from base 64 it is the bytes of the response then; else it is the text of the
response. An event that carries the reply back is read as the text of the response; there is none
only where its bytes spell none. -/
theorem Response.reply_transports (hb : r.body.isString)
    (hh : ((r.headers.orElse (.mapping [])).toShownMapping).isOk) :
    (r.IsTorn → r.reply false = .error .notEncodable) ∧
    (¬ r.IsTorn → ∃ reply, r.reply false = .ok reply ∧
      (reply.isBase64 ↔
        (∃ t ∈ binaryTypes, r.contentType.equal (.text t)) ∨ ∃ bs, r.body = .bytes bs) ∧
      (reply.isBase64 → ∃ sent bytes, reply.body = .text sent ∧ bodyBytes r.body = .ok bytes ∧
        Base64.decode? (sent.toList.map Char.toNat) = some bytes) ∧
      (¬ reply.isBase64 → reply.body = r.body) ∧
      ∀ event, reply.IsCarriedBy event →
        (∀ s, bodyText? r.body = some s → bodyOf event = .ok (.text s)) ∧
        (bodyText? r.body = none → bodyOf event = .error .notUtf8)) := by
  obtain ⟨given, hgiven⟩ := Result.isOk_iff.mp hh
  have hwhole : (if false then .text "" else r.body) = r.body := rfl
  rw [← isBinary_iff, exists_eq_bytes_iff hb]
  constructor
  · rintro ⟨hbinary, t, ht⟩
    rw [reply_encoded hgiven hwhole (.inl (isBinary_iff.mpr hbinary)), ht]
    rfl
  · intro hn
    by_cases he : isBinary r.contentType ∨ r.body.isText = false
    · have hspelled : ∀ t, r.body ≠ .torn t := by
        intro t ht
        have hbinary : isBinary r.contentType := by simpa [ht, Body.isText] using he
        exact hn ⟨isBinary_iff.mp hbinary, t, ht⟩
      obtain ⟨bytes, hsent⟩ := exists_bodyBytes hb hspelled
      rw [reply_encoded hgiven hwhole he, hsent]
      refine ⟨_, rfl, ⟨fun _ => he, fun _ => rfl⟩, ?_, ?_, ?_⟩
      · exact fun _ => ⟨_, bytes, rfl, rfl, by rw [String.toList_ofList, Base64.decode?_encode]⟩
      · exact fun h => absurd rfl h
      · intro event hevent
        rw [hevent.bodyOf_encoded rfl rfl, ← bodyText?_of_bodyBytes hsent]
        exact ⟨fun s hs => by rw [hs]; rfl, fun hs => by rw [hs]; rfl⟩
    · refine ⟨_, reply_plain hgiven hwhole he, ⟨nofun, fun h => absurd h he⟩, nofun,
        fun _ => rfl, ?_⟩
      intro event hevent
      obtain ⟨s, hs, hread⟩ := hevent.bodyOf_plain rfl
      dsimp only at hs
      rw [hread, hs]
      exact ⟨fun s hs => by cases hs; rfl, fun hs => by cases hs⟩

/-- A response of bytes that spell a letter with an accent. -/
def accented : Response where
  status := .int 200
  contentType := .text "text/plain"
  body := .bytes [0xC3, 0xA9]

theorem accented_transports : accented.body.isString ∧
    ((accented.headers.orElse (.mapping [])).toShownMapping).isOk ∧ ¬ accented.IsTorn ∧
    ∃ reply, accented.reply false = .ok reply ∧ reply.isBase64 ∧ reply.body = .text "w6k=" ∧
      ∀ event, reply.IsCarriedBy event → bodyOf event = .ok (.text "é") := by
  have hwhole : ¬ accented.IsTorn := by
    rintro ⟨-, t, ht⟩
    cases ht
  obtain ⟨reply, hreply, hflag, -, -, hread⟩ :=
    (accented.reply_transports (by decide) (by decide)).2 hwhole
  have he : accented.reply false = .ok _ := rfl
  refine ⟨by decide, by decide, hwhole, reply, hreply, hflag.mpr (.inr ⟨_, rfl⟩), ?_, ?_⟩
  · rw [he] at hreply
    cases hreply
    exact congrArg Body.text (by decide)
  · exact fun event hevent => (hread event hevent).1 "é" (by decide)

/-- A picture whose body is half of a pair. -/
def tornImage : Response where
  status := .int 200
  contentType := .text "image/png"
  body := .torn ⟨[0xD800], rfl⟩

/-- A response whose headers are a line of text in place of a mapping. -/
def headerLine : Response where
  status := .int 200
  contentType := .text "text/plain"
  body := .text "ok"
  headers := .text "X-Id: 7"

/-- Not every response with a text for its body makes a reply. -/
theorem not_reply_transports :
    (tornImage.body.isString ∧ tornImage.reply false = .error .notEncodable) ∧
    headerLine.body.isString ∧ headerLine.reply false = .error .badValue :=
  ⟨⟨rfl, rfl⟩, rfl, by rfl⟩

end ActionRouting.Service
