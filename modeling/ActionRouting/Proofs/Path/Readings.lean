import ActionRouting.Regex.CharSet
import ActionRouting.Proofs.Path.Segments
import ActionRouting.Proofs.Text.LetterCase

/-! The texts that a path of segments can take, and why a value that fills a parameter is not taken
by less of it: what comes after would have to take the rest of the value as well. -/
namespace ActionRouting

namespace Regex.Casing

theorem mem_variants (casing : Casing) (c : Char) : c.toNat ∈ casing.variants c := by
  cases casing with
  | exact => exact List.mem_singleton_self _
  | ascii =>
    rw [variants, Text.asciiCaseVariants]
    split
    · exact List.mem_cons_self
    · split
      · exact List.mem_cons_self
      · exact List.mem_cons_self
  | unicode => exact Text.mem_caseVariants c

lemma eq_of_mem_asciiCaseVariants {n : Nat} (hn : n ∈ [10, 35, 46, 47]) {d : Char}
    (h : n ∈ Text.asciiCaseVariants d) : d.toNat = n := by
  have hlt : n < 48 := by
    have : ∀ n ∈ [10, 35, 46, 47], n < 48 := by decide
    exact this n hn
  unfold Text.asciiCaseVariants at h
  split at h
  · next hu =>
    have := Text.isUpper_iff.mp hu
    simp only [List.mem_cons, List.not_mem_nil, or_false] at h
    omega
  · split at h
    · next hl =>
      have := Text.isLower_iff.mp hl
      simp only [List.mem_cons, List.not_mem_nil, or_false] at h
      omega
    · exact (List.mem_singleton.mp h).symm

/-- Nothing is taken for the end of a line, a hash, a dot or a slash but these themselves. -/
theorem eq_of_mem_variants {casing : Casing} {c d : Char} (hc : c ∈ ['\n', '#', '.', '/'])
    (h : c.toNat ∈ casing.variants d) : d = c := by
  have hn : ∀ c ∈ ['\n', '#', '.', '/'], c.toNat ∈ [10, 35, 46, 47] := by
    rw [List.forall_mem_cons, List.forall_mem_cons, List.forall_mem_cons, List.forall_mem_singleton]
    decide
  rw [← Char.toNat_inj]
  cases casing with
  | exact => exact (List.mem_singleton.mp h).symm
  | ascii => exact eq_of_mem_asciiCaseVariants (hn c hc) h
  | unicode => exact Text.eq_of_mem_caseVariants (hn c hc) h

/-- The end of a line, a hash, a dot and a slash are taken for themselves alone. -/
theorem variants_of_mem (casing : Casing) {d : Char} (hd : d ∈ ['\n', '#', '.', '/']) :
    casing.variants d = [d.toNat] := by
  have : ∀ d ∈ ['\n', '#', '.', '/'], exact.variants d = [d.toNat] ∧ ascii.variants d = [d.toNat] ∧
      unicode.variants d = [d.toNat] := by
    rw [List.forall_mem_cons, List.forall_mem_cons, List.forall_mem_cons, List.forall_mem_singleton]
    decide +kernel
  obtain ⟨hexact, hascii, hunicode⟩ := this d hd
  cases casing <;> assumption

end Regex.Casing

namespace Path

open Text Regex

namespace Param

def lead (p : Param) : List Char :=
  (if p.slash then ['/'] else []) ++ if p.dot then ['.'] else []

/-- The value of a parameter has characters, but no slash and no end of a line, and no dot after a
dot. -/
structure Fits (value : List Char → List Char) (p : Param) : Prop where
  ne_nil : value p.name ≠ []
  no_slash : '/' ∉ value p.name
  no_line : '\n' ∉ value p.name
  no_dot : p.dot → '.' ∉ value p.name

end Param

/-- The text of some parts whose parameters have values by their names. -/
def filled (value : List Char → List Char) (ps : List (Piece Param)) : List Char :=
  textOf (fun p => p.lead ++ value p.name) ps

inductive Takes (casing : Casing) : List (Piece Param) → List Char → Prop
  | nil : Takes casing [] []
  | plain {c d : Char} {ps : List (Piece Param)} {w : List Char} :
      c.toNat ∈ casing.variants d → Takes casing ps w → Takes casing (.plain c :: ps) (d :: w)
  | token {p : Param} {x : List Char} {ps : List (Piece Param)} {w : List Char} :
      x ≠ [] → '/' ∉ x → (p.dot → '.' ∉ x) → Takes casing ps w →
      Takes casing (.token p :: ps) (p.lead ++ (x ++ w))
  | missing {p : Param} {ps : List (Piece Param)} {w : List Char} :
      p.optional → Takes casing ps w → Takes casing (.token p :: ps) w

/-- What may be left of a path: a slash, and the end of a line. -/
def IsEnding (cs : List Char) : Prop := cs ∈ [[], ['/'], ['\n'], ['/', '\n']]

/-- A part without a slash. -/
def isFlat : Piece Param → Bool
  | .plain c => c != '/'
  | .token p => !p.slash

variable {casing : Casing} {value : List Char → List Char} {ps qs : List (Piece Param)}
  {w z v ending : List Char}

@[simp] lemma filled_nil : filled value [] = [] := rfl

@[simp] lemma filled_plain (c : Char) : filled value (.plain c :: ps) = c :: filled value ps := rfl

@[simp] lemma filled_token (p : Param) :
    filled value (.token p :: ps) = p.lead ++ value p.name ++ filled value ps := rfl

@[simp] lemma filled_append : filled value (ps ++ qs) = filled value ps ++ filled value qs :=
  List.flatMap_append

@[simp] lemma filled_plains (cs : List Char) : filled value (cs.map .plain) = cs := by
  rw [filled, textOf, List.flatMap_map]
  exact List.flatMap_singleton' cs

lemma Takes.of_append (h : Takes casing (ps ++ qs) w) :
    ∃ u v, w = u ++ v ∧ Takes casing ps u ∧ Takes casing qs v := by
  induction ps generalizing w with
  | nil => exact ⟨[], w, rfl, .nil, h⟩
  | cons p ps ih =>
    cases h with
    | plain hc h =>
      obtain ⟨u, v, rfl, hu, hv⟩ := ih h
      exact ⟨_, v, rfl, .plain hc hu, hv⟩
    | token hx hs hd h =>
      obtain ⟨u, v, rfl, hu, hv⟩ := ih h
      exact ⟨_, v, by simp, .token hx hs hd hu, hv⟩
    | missing ho h =>
      obtain ⟨u, v, rfl, hu, hv⟩ := ih h
      exact ⟨u, v, rfl, .missing ho hu, hv⟩

/-- Parts without slashes take none. -/
lemma Takes.no_slash (h : Takes casing ps w) (hf : ps.all isFlat) : '/' ∉ w := by
  induction h with
  | nil => simp
  | @plain c d ps w hc h ih =>
    simp only [List.all_cons, Bool.and_eq_true, isFlat, bne_iff_ne] at hf
    rintro (_ | ⟨_, hm⟩)
    · rw [casing.variants_of_mem (by decide), List.mem_singleton, Char.toNat_inj] at hc
      exact hf.1 hc
    · exact ih hf.2 hm
  | @token p x ps w hx hs hd h ih =>
    simp only [List.all_cons, Bool.and_eq_true, isFlat, Bool.not_eq_true'] at hf
    simp only [List.mem_append, Param.lead, hf.1, not_or]
    refine ⟨⟨by simp, ?_⟩, hs, ih hf.2⟩
    cases p.dot <;> simp
  | missing ho h ih =>
    rw [List.all_cons, Bool.and_eq_true] at hf
    exact ih hf.2

/-- A segment is taken with its slash, or it begins with a parameter that is missing with it. -/
lemma Takes.of_slashed (h : Takes casing (slashed ps) w) (hf : ps.all isFlat) :
    (∃ b, w = '/' :: b ∧ Takes casing ps b) ∨ ((∃ p, .token p ∈ ps) ∧ '/' ∉ w) := by
  cases ps with
  | nil =>
    cases h with
    | @plain _ d _ _ hc h =>
      rw [casing.eq_of_mem_variants (by decide) hc]
      exact .inl ⟨_, rfl, h⟩
  | cons q ps =>
    cases q with
    | plain c =>
      cases h with
      | @plain _ d _ _ hc h =>
        rw [casing.eq_of_mem_variants (by decide) hc]
        exact .inl ⟨_, rfl, h⟩
    | token p =>
      simp only [List.all_cons, Bool.and_eq_true, isFlat, Bool.not_eq_true'] at hf
      cases h with
      | token hx hs hd h =>
        refine .inl ⟨_, ?_, .token hx hs hd h⟩
        simp [Param.lead, hf.1]
      | missing ho h => exact .inr ⟨⟨p, List.mem_cons_self⟩, h.no_slash hf.2⟩

def AllFit (value : List Char → List Char) (ps : List (Piece Param)) : Prop :=
  ∀ p, .token p ∈ ps → p.Fits value

lemma filled_slashed (hf : ps.all isFlat) : filled value (slashed ps) = '/' :: filled value ps := by
  cases ps with
  | nil => rfl
  | cons q ps =>
    cases q with
    | plain c => rfl
    | token p =>
      simp only [List.all_cons, Bool.and_eq_true, isFlat, Bool.not_eq_true'] at hf
      simp [slashed, Param.lead, hf.1]

lemma filled_no_slash (hf : ps.all isFlat) (hv : AllFit value ps) : '/' ∉ filled value ps := by
  induction ps with
  | nil => simp
  | cons q ps ih =>
    rw [List.all_cons, Bool.and_eq_true] at hf
    have ih := ih hf.2 fun p hp => hv p (List.mem_cons_of_mem _ hp)
    cases q with
    | plain c =>
      have hc : c ≠ '/' := by simpa [isFlat] using hf.1
      simpa using ⟨hc.symm, ih⟩
    | token p =>
      have hs : p.slash = false := by simpa [isFlat] using hf.1
      have hp := hv p List.mem_cons_self
      simp only [filled_token, List.mem_append, Param.lead, hs, not_or]
      refine ⟨⟨⟨by simp, ?_⟩, hp.no_slash⟩, ih⟩
      cases p.dot <;> simp

/-- Parts with nothing in them, or with the end of a line, have no parameter. -/
lemma parts_of_filled (hv : AllFit value ps) (h : filled value ps ∈ [[], ['\n']]) :
    ps ∈ [[], [.plain '\n']] := by
  have hnil {qs : List (Piece Param)} (hq : AllFit value qs) (h : filled value qs = []) :
      qs = [] := by
    cases qs with
    | nil => rfl
    | cons q qs =>
      cases q with
      | plain c => cases h
      | token p =>
        simp only [filled_token, List.append_eq_nil_iff] at h
        exact absurd h.1.2 (hq p List.mem_cons_self).ne_nil
  simp only [List.mem_cons, List.not_mem_nil, or_false] at h ⊢
  rcases h with h | h
  · exact .inl (hnil hv h)
  · cases ps with
    | nil => exact .inl rfl
    | cons q ps =>
      cases q with
      | plain c =>
        rw [filled_plain, List.cons.injEq] at h
        rw [h.1, hnil (fun p hp => hv p (List.mem_cons_of_mem _ hp)) h.2]
        exact .inr rfl
      | token p =>
        have hp := hv p List.mem_cons_self
        obtain ⟨c, hc⟩ := List.exists_mem_of_ne_nil _ hp.ne_nil
        have hm : c ∈ filled value (.token p :: ps) := by simp [hc]
        rw [h, List.mem_singleton] at hm
        exact absurd (hm ▸ hc) hp.no_line

/-- The end of a line is taken as it is. -/
lemma Takes.line (h : Takes casing ps w) (hp : ps ∈ [[], [.plain '\n']]) : w ∈ [[], ['\n']] := by
  simp only [List.mem_cons, List.not_mem_nil, or_false] at hp ⊢
  rcases hp with rfl | rfl
  · cases h
    exact .inl rfl
  · cases h with
    | plain hc h =>
      cases h
      rw [casing.eq_of_mem_variants (by decide) hc]
      exact .inr rfl

/-- A text up to a slash, without slashes at its beginning. -/
lemma split_slash {b t : List Char} (hb : '/' ∉ b) (h : b ++ t = z ++ '/' :: v) :
    ∃ y, z = b ++ y ∧ t = y ++ '/' :: v := by
  rcases List.append_eq_append_iff.mp h with ⟨y, hz, ht⟩ | ⟨y, hy, ht⟩
  · exact ⟨y, hz, ht⟩
  · cases y with
    | nil => exact ⟨[], by simpa using hy.symm, by simpa using ht.symm⟩
    | cons c y =>
      cases ht
      exact absurd (by rw [hy]; simp) hb

lemma eq_nil_of_slash {t : List Char} (hz : '/' ∉ z) (h : '/' :: t = z ++ '/' :: v) :
    z = [] ∧ t = v := by
  cases z with
  | nil =>
    cases h
    exact ⟨rfl, rfl⟩
  | cons c z =>
    cases h
    exact absurd List.mem_cons_self hz

lemma not_mem_line {u : List Char} (h : u ∈ [[], ['\n']]) : '/' ∉ u := by
  simp only [List.mem_cons, List.not_mem_nil, or_false] at h
  rcases h with rfl | rfl <;> simp

variable {bodies : List (List (Piece Param))}

/-- If a path takes the text of the path with a segment more before it, the segment is what may be
left of a path. -/
lemma Takes.extra (hf : ∀ b ∈ bodies, b.all isFlat) (hv : ∀ b ∈ bodies, AllFit value b)
    (he : IsEnding ending) (h : Takes casing (bodies.flatMap slashed) w) (hz : '/' ∉ z)
    (heq : w ++ ending = z ++ '/' :: (v ++ filled value (bodies.flatMap slashed))) :
    z = [] ∧ v ∈ [[], ['\n']] := by
  induction bodies generalizing w z v with
  | nil =>
    cases h
    simp only [List.flatMap_nil, filled_nil, List.nil_append, List.append_nil] at heq
    simp only [IsEnding, List.mem_cons, List.not_mem_nil, or_false] at he
    rcases he with rfl | rfl | rfl | rfl
    · simp at heq
    · obtain ⟨rfl, rfl⟩ := eq_nil_of_slash hz heq
      simp
    · have : '/' ∈ ['\n'] := by simp [heq]
      simp at this
    · obtain ⟨rfl, rfl⟩ := eq_nil_of_slash hz heq
      simp
  | cons b bodies ih =>
    rw [List.flatMap_cons] at h heq
    obtain ⟨w₁, w₂, rfl, h₁, h₂⟩ := h.of_append
    have hfb := hf b List.mem_cons_self
    have hvb := hv b List.mem_cons_self
    have ih {y u : List Char} := ih (fun b' hb => hf b' (List.mem_cons_of_mem _ hb))
      (fun b' hb => hv b' (List.mem_cons_of_mem _ hb)) h₂ (z := y) (v := u)
    rw [filled_append, filled_slashed hfb, List.append_assoc, List.cons_append] at heq
    rcases h₁.of_slashed hfb with ⟨t, rfl, ht⟩ | ⟨-, ht⟩
    · obtain ⟨rfl, hrest⟩ := eq_nil_of_slash hz heq
      have hts := ht.no_slash hfb
      refine ⟨rfl, ?_⟩
      by_cases hvs : '/' ∈ v
      · -- Of two segments more, one is left over.
        obtain ⟨v₁, v₂, rfl, hv₁⟩ := List.eq_append_cons_of_mem hvs
        rw [List.append_assoc, List.cons_append] at hrest
        obtain ⟨y, rfl, hy⟩ := split_slash hts hrest
        have := (ih (u := v₂ ++ '/' :: filled value b)
          (fun hm => hv₁ (List.mem_append_right _ hm)) (by simpa using hy)).2
        exact absurd (by simp) (not_mem_line this)
      · obtain ⟨y, rfl, hy⟩ := split_slash hts hrest
        obtain ⟨rfl, hb⟩ := ih (fun hm => hvs (List.mem_append_right _ hm)) hy
        rw [List.append_nil]
        exact ht.line (parts_of_filled hvb hb)
    · obtain ⟨y, rfl, hy⟩ := split_slash ht heq
      have := (ih (u := v ++ '/' :: filled value b)
        (fun hm => hz (List.mem_append_right _ hm)) (by simpa using hy)).2
      exact absurd (by simp) (not_mem_line this)

/-- If a path takes its own text with something more before it, that is the end of a line. -/
lemma Takes.own (hf : ∀ b ∈ bodies, b.all isFlat) (hv : ∀ b ∈ bodies, AllFit value b)
    (he : IsEnding ending) (h : Takes casing (bodies.flatMap slashed) w) (hz : '/' ∉ z)
    (heq : w ++ ending = z ++ filled value (bodies.flatMap slashed)) :
    z ∈ [[], ['\n']] := by
  cases bodies with
  | nil =>
    cases h
    simp only [List.flatMap_nil, filled_nil, List.nil_append, List.append_nil] at heq
    subst heq
    simp only [IsEnding, List.mem_cons, List.not_mem_nil, or_false] at he
    rcases he with rfl | rfl | rfl | rfl
    · simp
    · simp at hz
    · simp
    · simp at hz
  | cons b bodies =>
    rw [List.flatMap_cons] at h heq
    obtain ⟨w₁, w₂, rfl, h₁, h₂⟩ := h.of_append
    have hfb := hf b List.mem_cons_self
    have hvb := hv b List.mem_cons_self
    rw [filled_append, filled_slashed hfb, List.append_assoc] at heq
    rcases h₁.of_slashed hfb with ⟨t, rfl, ht⟩ | ⟨⟨p, hp⟩, ht⟩
    · rw [(eq_nil_of_slash hz heq).1]
      simp
    · obtain ⟨y, rfl, hy⟩ := split_slash ht heq
      have hb := (h₂.extra (fun b' hb => hf b' (List.mem_cons_of_mem _ hb))
        (fun b' hb => hv b' (List.mem_cons_of_mem _ hb)) he
        (fun hm => hz (List.mem_append_right _ hm)) hy).2
      have := parts_of_filled hvb hb
      simp only [List.mem_cons, List.not_mem_nil, or_false] at this
      rcases this with rfl | rfl
      · cases hp
      · simp at hp

/-- Some parts do not take what is left of a value before them. -/
def Settles (casing : Casing) (value : List Char → List Char) (ps : List (Piece Param)) : Prop :=
  ∀ y w ending, '/' ∉ y → '\n' ∉ y → IsEnding ending → Takes casing ps w →
    w ++ ending = y ++ filled value ps → y = []

/-- Each parameter fits its value, and what comes after it does not take any of it. -/
def IsTight (casing : Casing) (value : List Char → List Char) : List (Piece Param) → Prop
  | [] => True
  | .plain _ :: ps => IsTight casing value ps
  | .token p :: ps => p.Fits value ∧ Settles casing value ps ∧ IsTight casing value ps

lemma eq_nil_of_line {y : List Char} (hy : '\n' ∉ y) (h : y ∈ [[], ['\n']]) : y = [] := by
  simp only [List.mem_cons, List.not_mem_nil, or_false] at h
  rcases h with rfl | rfl
  · rfl
  · simp at hy

lemma settles_path (hf : ∀ b ∈ bodies, b.all isFlat) (hv : ∀ b ∈ bodies, AllFit value b) :
    Settles casing value (bodies.flatMap slashed) :=
  fun _ _ _ hy hl he h heq => eq_nil_of_line hl (h.own hf hv he hy heq)

lemma Takes.length_eq {u : List Char} (h : Takes casing (u.map .plain) w) :
    w.length = u.length := by
  induction u generalizing w with
  | nil =>
    cases h
    rfl
  | cons c u ih =>
    cases h with
    | plain hc h => rw [List.length_cons, List.length_cons, ih h]

/-- A text that takes itself one character later ends as it begins. -/
lemma Takes.shifted {u : List Char} {d : Char} (h : Takes casing (u.map .plain) w)
    (heq : d :: u = w ++ ['\n']) : d = '\n' := by
  induction u generalizing d w with
  | nil =>
    cases h
    cases heq
    rfl
  | cons c u ih =>
    cases h with
    | plain hc h =>
      rw [List.cons_append, List.cons.injEq] at heq
      obtain ⟨rfl, heq⟩ := heq
      obtain rfl := ih h heq
      exact casing.eq_of_mem_variants (by decide) hc

/-- A text is divided at its last character of a kind in one way. -/
lemma split_last {c : Char} {a b x y : List Char} (hx : c ∉ x) (hy : c ∉ y)
    (h : a ++ c :: x = b ++ c :: y) : a = b := by
  rcases List.append_eq_append_iff.mp h with ⟨d, rfl, hd⟩ | ⟨d, rfl, hd⟩
  · cases d with
    | nil => rw [List.append_nil]
    | cons e d =>
      cases hd
      exact absurd (by simp) hx
  · cases d with
    | nil => rw [List.append_nil]
    | cons e d =>
      cases hd
      exact absurd (by simp) hy

lemma settles_text {stop y b₁ b₂ : List Char} {format : List (Piece Param)}
    (hform : format = [] ∨ ∃ p, format = [.token p] ∧ p.slash = false ∧ p.dot = true)
    (hv : AllFit value format) (hl : '\n' ∉ y) (h₁ : Takes casing (stop.map .plain) b₁)
    (h₂ : Takes casing format b₂) (hz : z ∈ [[], ['\n']])
    (heq : y ++ (stop ++ filled value format) = b₁ ++ b₂ ++ z) : y = [] := by
  have hlen := congrArg List.length heq
  have hzlen : z.length ≤ 1 := by
    simp only [List.mem_cons, List.not_mem_nil, or_false] at hz
    rcases hz with rfl | rfl <;> simp
  have hb₁ := h₁.length_eq
  simp only [List.length_append] at hlen
  rcases hform with rfl | ⟨p, rfl, hs, hd⟩
  · cases h₂
    simp only [filled_nil, List.append_nil, List.length_nil] at heq hlen
    simp only [List.mem_cons, List.not_mem_nil, or_false] at hz
    rcases hz with rfl | rfl
    · exact List.eq_nil_of_length_eq_zero (by simp at hlen; omega)
    · have hone : y.length = 1 := by simp at hlen; omega
      obtain ⟨d, rfl⟩ := List.length_eq_one_iff.mp hone
      exact absurd (h₁.shifted heq) fun hd => hl (by simp [hd])
  · have hp := hv p List.mem_cons_self
    have hlead : p.lead = ['.'] := by simp [Param.lead, hs, hd]
    cases h₂ with
    | @token _ x _ _ hx hxs hxd h =>
      cases h
      simp only [filled_token, filled_nil, hlead, List.append_nil, List.append_assoc,
        List.singleton_append] at heq
      have hxz : '.' ∉ x ++ z := by
        rw [List.mem_append, not_or]
        refine ⟨hxd hd, ?_⟩
        simp only [List.mem_cons, List.not_mem_nil, or_false] at hz
        rcases hz with rfl | rfl <;> simp
      rw [← List.append_assoc, List.cons_append] at heq
      have := congrArg List.length (split_last (hp.no_dot hd) hxz heq)
      simp only [List.length_append] at this
      exact List.eq_nil_of_length_eq_zero (by omega)
    | missing ho h =>
      cases h
      have := List.length_pos_iff.mpr hp.ne_nil
      simp only [filled_token, filled_nil, hlead, List.append_nil, List.length_append,
        List.length_singleton, List.length_nil] at hlen
      omega

lemma isFlat_plains {u : List Char} (hu : '/' ∉ u) :
    (u.map (Piece.plain (τ := Param))).all isFlat := by
  rw [List.all_map, List.all_eq_true]
  intro c hc
  simpa [isFlat] using fun h : c = '/' => hu (h ▸ hc)

/-- A path begins with a slash, if with anything. -/
lemma filled_path (hf : ∀ b ∈ bodies, b.all isFlat) :
    filled value (bodies.flatMap slashed) = [] ∨
      ∃ t, filled value (bodies.flatMap slashed) = '/' :: t := by
  cases bodies with
  | nil => exact .inl rfl
  | cons b bodies =>
    rw [List.flatMap_cons, filled_append, filled_slashed (hf b List.mem_cons_self)]
    exact .inr ⟨_, rfl⟩

/-- The text after a parameter, a format and the segments after them do not take what is left of the
value of the parameter. -/
lemma settles_middle {stop : List Char} {format : List (Piece Param)} (hstop : '/' ∉ stop)
    (hform : format = [] ∨ ∃ p, format = [.token p] ∧ p.slash = false ∧ p.dot = true)
    (hfit : AllFit value format) (hf : ∀ b ∈ bodies, b.all isFlat)
    (hv : ∀ b ∈ bodies, AllFit value b) :
    Settles casing value (stop.map .plain ++ (format ++ bodies.flatMap slashed)) := by
  intro y w ending hy hl he h heq
  obtain ⟨b₁, r, rfl, h₁, hr⟩ := h.of_append
  obtain ⟨b₂, w', rfl, h₂, h'⟩ := hr.of_append
  have hflat : format.all isFlat := by
    rcases hform with rfl | ⟨p, rfl, hs, -⟩
    · rfl
    · simp [isFlat, hs]
  have hb : '/' ∉ b₁ ++ b₂ := by
    rw [List.mem_append, not_or]
    exact ⟨h₁.no_slash (isFlat_plains hstop), h₂.no_slash hflat⟩
  have hc : '/' ∉ y ++ (stop ++ filled value format) := by
    simp only [List.mem_append, not_or]
    exact ⟨hy, hstop, filled_no_slash hflat hfit⟩
  have hsplit : (b₁ ++ b₂) ++ (w' ++ ending) =
      (y ++ (stop ++ filled value format)) ++ filled value (bodies.flatMap slashed) := by
    simpa using heq
  obtain ⟨z, hz, hw⟩ : ∃ z, y ++ (stop ++ filled value format) = b₁ ++ b₂ ++ z ∧
      w' ++ ending = z ++ filled value (bodies.flatMap slashed) := by
    rcases List.append_eq_append_iff.mp hsplit with ⟨z, hz, hw⟩ | ⟨z, hz, hw⟩
    · exact ⟨z, hz, hw⟩
    · -- Nothing without a slash stands before the segments that follow.
      have hzs : z = [] := by
        cases z with
        | nil => rfl
        | cons c z =>
          rcases (filled_path hf : filled value _ = [] ∨ _) with hnil | ⟨t, ht⟩
          · rw [hnil] at hw
            cases hw
          · rw [ht] at hw
            cases hw
            exact absurd (by rw [hz]; simp) hb
      subst hzs
      exact ⟨[], by simpa using hz.symm, by simpa using hw.symm⟩
  have hzs : '/' ∉ z := fun hm => hc (hz ▸ List.mem_append_right _ hm)
  exact settles_text hform hfit hl h₁ h₂ (h'.own hf hv he hzs hw) hz

lemma isTight_plains (u : List Char) :
    IsTight casing value (u.map .plain ++ ps) ↔ IsTight casing value ps := by
  induction u with
  | nil => rfl
  | cons c u ih => exact ih

lemma isTight_slashed (h : IsTight casing value (ps ++ qs)) :
    IsTight casing value (slashed ps ++ qs) := by
  cases ps with
  | nil => exact h
  | cons q ps =>
    cases q with
    | plain c => exact h
    | token p => exact ⟨⟨h.1.ne_nil, h.1.no_slash, h.1.no_line, h.1.no_dot⟩, h.2⟩

namespace Segment

def Fits (value : List Char → List Char) (g : Segment) : Prop := AllFit value g.body

lemma not_mem_free {u : List Char} (hu : u.all isFree) : '/' ∉ u := fun hm =>
  isFree_ne (List.all_eq_true.mp hu _ hm) (by decide : isFree '/' = false) rfl

lemma isFlat_body {g : Segment} (hg : g.isOver isFree) : g.body.all isFlat := by
  obtain ⟨start, hole, format⟩ := g
  simp only [Segment.isOver, Bool.and_eq_true] at hg
  obtain ⟨⟨hstart, hhole⟩, -⟩ := hg
  have hs := isFlat_plains (not_mem_free hstart)
  have hf : (format.elim [] fun h => [.token (h.param false true)]).all isFlat := by
    cases format <;> rfl
  have hh : (hole.elim [] fun h => .token (h.1.param false false) :: h.2.map .plain).all
      isFlat := by
    cases hole with
    | none => rfl
    | some h =>
      simp only [Option.all_some, Bool.and_eq_true] at hhole
      exact isFlat_plains (not_mem_free hhole.1.2)
  rw [body, List.all_append, List.all_append, hs, hh, hf]
  rfl

lemma form_format (format : Option Hole) :
    (format.elim [] fun h => [Piece.token (h.param false true)]) = [] ∨
      ∃ p, (format.elim [] fun h => [Piece.token (h.param false true)]) = [.token p] ∧
        p.slash = false ∧ p.dot = true := by
  cases format with
  | none => exact .inl rfl
  | some h => exact .inr ⟨_, rfl, rfl, rfl⟩

/-- A segment before a tight path that does not take what is left of a value. -/
lemma isTight_body {g : Segment} (hg : g.isValid) (hv : g.Fits value)
    (hf : ∀ b ∈ bodies, b.all isFlat) (hb : ∀ b ∈ bodies, AllFit value b)
    (ht : IsTight casing value (bodies.flatMap slashed)) :
    IsTight casing value (g.body ++ bodies.flatMap slashed) := by
  obtain ⟨start, hole, format⟩ := g
  have hfit : AllFit value (format.elim [] fun h => [.token (h.param false true)]) :=
    fun p hp => hv p (List.mem_append_right _ hp)
  have hformat : IsTight casing value
      ((format.elim [] fun h => [.token (h.param false true)]) ++ bodies.flatMap slashed) := by
    cases format with
    | none => exact ht
    | some h => exact ⟨hfit _ List.mem_cons_self, settles_path hf hb, ht⟩
  rw [body, List.append_assoc, List.append_assoc, isTight_plains]
  cases hole with
  | none => exact hformat
  | some h =>
    have hg := isOver_of_isValid hg
    simp only [Segment.isOver, Option.all_some, Bool.and_eq_true] at hg
    refine ⟨hv _ (by simp [body]), ?_, (isTight_plains _).mpr hformat⟩
    exact settles_middle (not_mem_free hg.1.2.1.2) (form_format format) hfit hf hb

end Segment

lemma pathPieces_eq (segments : List Segment) :
    pathPieces segments = (segments.map Segment.body).flatMap slashed := by
  rw [List.flatMap_map]
  rfl

/-- A path of segments whose parameters fit their values is tight. -/
theorem isTight_path {segments : List Segment} (hg : ∀ g ∈ segments, g.isValid)
    (hv : ∀ g ∈ segments, g.Fits value) : IsTight casing value (pathPieces segments) := by
  induction segments with
  | nil => trivial
  | cons g segments ih =>
    have hg' := fun g' hm => hg g' (List.mem_cons_of_mem _ hm)
    have hv' := fun g' hm => hv g' (List.mem_cons_of_mem _ hm)
    have ht := ih hg' hv'
    rw [pathPieces_eq] at ht ⊢
    rw [List.map_cons, List.flatMap_cons]
    refine isTight_slashed (Segment.isTight_body (hg g List.mem_cons_self)
      (hv g List.mem_cons_self) ?_ ?_ ht)
    · intro b hb
      obtain ⟨g', hm, rfl⟩ := List.mem_map.mp hb
      exact Segment.isFlat_body (Segment.isOver_of_isValid (hg' g' hm))
    · intro b hb
      obtain ⟨g', hm, rfl⟩ := List.mem_map.mp hb
      exact hv' g' hm

end Path

end ActionRouting
