import ActionRouting.Proofs.Path.Descriptors
import ActionRouting.Proofs.Regex.BothEnds
import ActionRouting.Proofs.Value.Kinds

/-! Where the matches of a compiled path begin and end. The caret and the dollar sign that are put
around it hold for all of it, unless a bar stands outside all groups, or a backslash that the path
ends with escapes the dollar sign. -/
namespace ActionRouting

open Regex Text

namespace Path

/-- What some characters become ends with a backslash only if they do, and is empty only if they
are none. -/
structure EndsLike (e cs : List Char) : Prop where
  nil : e = [] → cs = []
  backslash : e.getLast? = some '\\' → cs.getLast? = some '\\'

lemma EndsLike.refl (cs : List Char) : EndsLike cs cs := ⟨id, id⟩

lemma EndsLike.append {e e' cs cs' : List Char} (h : EndsLike e cs) (h' : EndsLike e' cs') :
    EndsLike (e ++ e') (cs ++ cs') := by
  refine ⟨fun hnil => ?_, fun hlast => ?_⟩
  · obtain ⟨he, he'⟩ := List.append_eq_nil_iff.mp hnil
    rw [h.nil he, h'.nil he', List.append_nil]
  · rcases List.eq_nil_or_concat e' with rfl | ⟨u, c, rfl⟩
    · rw [List.append_nil] at hlast
      rw [h'.nil rfl, List.append_nil]
      exact h.backslash hlast
    · rw [List.getLast?_append, h'.backslash (by simpa using hlast)]
      rfl

lemma endsLike_fragment {f : Fragment} {e : List Char} {s : List Slot}
    (h : Pattern.ofFragment f = .ok (e, s)) : EndsLike e f.write := by
  rcases f with p | c | (_ | name) | _ | _
  · obtain ⟨own, -, h⟩ := Result.bind_eq_ok.mp h
    cases h
    constructor
    · simp
    · cases p.optional <;> cases p.star <;>
        simp [Pattern.trailingCapture, List.getLast?_cons, List.getLast?_append]
  all_goals
    cases h
    constructor <;> simp [Fragment.write]

/-- What the pieces of a text become ends with a backslash only if the text does. -/
lemma endsLike_pieces {before : Option Char} {cs e : List Char} {s : List Slot}
    {ps : List (Piece Fragment)} (h : Fragment.scanner.Cuts before cs ps)
    (ho : Pattern.ofPieces ps = .ok (e, s)) : EndsLike e cs := by
  induction h generalizing e s with
  | nil =>
    cases ho
    exact .refl []
  | @plain _ c cs ps _ _ ih =>
    obtain ⟨rest, hrest, ho⟩ := Result.bind_eq_ok.mp ho
    cases ho
    exact (EndsLike.refl [c]).append (ih hrest)
  | @token _ f cs ps _ _ ih =>
    obtain ⟨first, hfirst, ho⟩ := Result.bind_eq_ok.mp ho
    obtain ⟨rest, hrest, ho⟩ := Result.bind_eq_ok.mp ho
    cases ho
    exact (endsLike_fragment hfirst).append (ih hrest)

end Path

open ActionRouting.Path

namespace Pattern

variable {spec : PathSpec} {text : List Char} {caseSensitive strict : Bool} {p : Pattern}

def tokens (p : Pattern) : List Token := Regex.tokens false p.source.toList

lemma tokens_of_source {cs : List Char} (h : p.source.toList = '^' :: cs) :
    ∃ ts, p.tokens = .caret :: ts := by
  rw [tokens, h]
  exact ⟨_, rfl⟩

/-- Only a path that ends with a backslash brings one before the dollar sign, if no slash may be
left out. -/
lemma backslash_of_suffix {e : List Char} (he : EndsLike e text)
    (h : ['\\', '$'] <:+ '^' :: (e ++ ending strict)) :
    strict = true ∧ text.getLast? = some '\\' := by
  obtain ⟨u, hu⟩ := h
  have hdollar : (u ++ ['\\']) ++ ['$'] =
      ('^' :: (e ++ if strict then [] else ['/', '?'])) ++ ['$'] := by
    simpa [ending] using hu
  have hlast := congrArg List.getLast? (List.append_cancel_right hdollar)
  cases strict with
  | false => simp [List.getLast?_cons, List.getLast?_append] at hlast
  | true =>
    rcases List.eq_nil_or_concat e with rfl | ⟨v, c, rfl⟩
    · simp at hlast
    · exact ⟨rfl, he.backslash (by simpa [List.getLast?_cons] using hlast.symm)⟩

/-- The matches of a compiled path begin where the text does if no bar stands outside all groups,
and end where the text or its last line does if the dollar sign behind the path is no character. It
is one only if the path ends with a backslash and slashes are strict. -/
theorem extent_of_not_hasOuterBar (hs : spec.text? = some text)
    (h : compile caseSensitive strict spec = .ok p) (hbar : hasOuterBar 0 p.tokens = false) :
    (∀ subject m, p.matcher.search subject = some m →
      m.span.start = 0 ∧ (p.tokens.getLast? = some .dollar → m.EndsText subject)) ∧
    (p.tokens.getLast? = some .dollar ∨ strict = true ∧ text.getLast? = some '\\') := by
  obtain ⟨e, hpieces, hsource, hcompile⟩ := ofText_eq_ok (ofText_of_compile hs h)
  have hlike : EndsLike e text :=
    endsLike_pieces (Fragment.scanner_isFaithful.cuts none text) hpieces
  obtain ⟨ts, hts⟩ := tokens_of_source hsource
  rw [hts] at hbar
  have hbar' : hasOuterBar 0 ts = false := hbar
  obtain ⟨nodes, hroot, hend⟩ := root_of_tokens hcompile rfl hts hbar'
  constructor
  · intro subject m hm
    refine ⟨start_of_search hroot hm, fun hlast => ?_⟩
    rw [hts, getLast?_caret] at hlast
    obtain ⟨inner, rfl⟩ := hend hlast
    have hboth : p.matcher.root =
        .ofParts ((.anchor .textStart :: inner) ++ [.anchor .finalLineEnd]) := hroot
    exact endsText_of_search hboth hm
  · have hdollar : ['$'] <:+ p.source.toList := by
      rw [hsource, ending]
      exact ⟨'^' :: (e ++ if strict then [] else ['/', '?']), by simp⟩
    rw [hts, getLast?_caret]
    refine (getLast?_tokens hcompile rfl rfl hts hbar' hdollar).imp_right fun hsuffix => ?_
    rw [hsource] at hsuffix
    exact backslash_of_suffix hlike hsuffix

theorem extent_of_not_hasOuterBar_alternatives :
    ∃ p, compile true false (.alternatives ["/a", "/b/:id"]) = .ok p ∧
      hasOuterBar 0 p.tokens = false ∧
      (∀ subject m, p.matcher.search subject = some m →
        m.span.start = 0 ∧ m.EndsText subject) ∧
      (p.matcher.search "/b/7\n".toList).map (·.span) = some ⟨0, 4⟩ := by
  have hok : (compile true false (.alternatives ["/a", "/b/:id"])).toOption.any fun p =>
      !hasOuterBar 0 p.tokens && p.tokens.getLast? == some .dollar &&
        (p.matcher.search "/b/7\n".toList).map (·.span) == some ⟨0, 4⟩ := by
    decide +kernel
  cases h : compile true false (.alternatives ["/a", "/b/:id"]) with
  | error e =>
    rw [h] at hok
    cases hok
  | ok p =>
    rw [h, Except.toOption, Option.any_some, Bool.and_eq_true, Bool.and_eq_true, beq_iff_eq,
      beq_iff_eq, Bool.not_eq_true'] at hok
    obtain ⟨⟨hbar, hdollar⟩, hmatch⟩ := hok
    obtain ⟨hsearch, -⟩ := extent_of_not_hasOuterBar rfl h hbar
    exact ⟨p, rfl, hbar, fun subject m hm => (hsearch subject m hm).imp_right (· hdollar), hmatch⟩

/-- A path with a bar outside all groups matches what goes on behind its first half. -/
example : ((compile false false (.text "/a|/b")).toOption.bind
    (·.matcher.search "/ax".toList)).map (·.span) = some ⟨0, 2⟩ := by decide +kernel

end Pattern

end ActionRouting
