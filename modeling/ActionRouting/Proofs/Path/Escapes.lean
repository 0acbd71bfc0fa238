import ActionRouting.Proofs.Path.AtomReadings
import ActionRouting.Proofs.Path.Given

/-! Escaped characters in paths that are filled. A backslash hides the character behind it where a
path is read, but stays in the text where the path is filled. So an escaped character never finds
itself again, except that a slash behind a parameter leaves its backslash to that parameter. -/
namespace ActionRouting

namespace Path

open Text Regex

variable {named : OrderedMap Value} {positional : List Value} {value : List Char → List Char}
  {a : Atom} {as : List Atom} {cs name : List Char} {c : Char}

/-! ### How a path of atoms is filled -/

/-- A path with its parameters filled, before the rest of the path is. -/
def replaced (named : OrderedMap Value) (cs : List Char) : List Char :=
  Param.scanner.replace (fillParam named) cs

/-- Only a colon asks what is before it. -/
lemma piecesFrom_before (h : cs.head? ≠ some ':') (before : Option Char) :
    Param.scanner.piecesFrom 0 before cs = Param.scanner.pieces cs := by
  cases cs with
  | nil => rfl
  | cons c cs =>
    have hread : Param.read? before (c :: cs) = Param.read? none (c :: cs) := by
      have hc : c ≠ ':' := by simpa using h
      by_cases hs : c = '/'
      · subst hs
        simp only [Param.read?, Param.eat_self]
        split <;> rfl
      · by_cases hd : c = '.'
        · subst hd
          rw [Param.read?, Param.read?, Param.eat_of_ne (by simp)]
          simp only [Param.eat_self]
          split <;> rfl
        · rw [Param.read?_of_ne hs hd hc, Param.read?_of_ne hs hd hc]
    simp only [Scanner.pieces, Scanner.piecesFrom, Param.scanner, hread]

lemma replaced_cons (h : Param.read? none (c :: cs) = none) (hc : cs.head? ≠ some ':') :
    replaced named (c :: cs) = c :: replaced named cs := by
  have hpieces : Param.scanner.pieces (c :: cs) = .plain c :: Param.scanner.pieces cs := by
    rw [← piecesFrom_before hc (some c), Scanner.pieces, Scanner.piecesFrom]
    simp only [Param.scanner, h]
  rw [replaced, Scanner.replace, hpieces]
  rfl

lemma head?_of_isApart (h : isApart cs) : cs.head? ≠ some '.' ∧ cs.head? ≠ some ':' := by
  cases cs with
  | nil => simp
  | cons c cs => simpa [isApart] using h

lemma replaced_char (hv : (Atom.char c).isValid) (h : isApart cs) :
    replaced named (c :: cs) = c :: replaced named cs := by
  obtain ⟨hdot, hcolon⟩ := head?_of_isApart h
  refine replaced_cons ?_ hcolon
  rcases isFree_or_slash hv with hc | rfl
  · exact Param.read?_of_ne (isFree_ne hc (by decide)) (isFree_ne hc (by decide))
      (isFree_ne hc (by decide))
  · exact Param.read?_slash hdot hcolon

/-- A backslash stays, whatever is behind it. -/
lemma replaced_backslash (named : OrderedMap Value) (cs : List Char) :
    ∃ z, replaced named ('\\' :: cs) = '\\' :: z := by
  have hread : Param.read? none ('\\' :: cs) = none :=
    Param.read?_of_ne (by decide) (by decide) (by decide)
  have hpieces : Param.scanner.pieces ('\\' :: cs) =
      .plain '\\' :: Param.scanner.piecesFrom 0 (some '\\') cs := by
    rw [Scanner.pieces, Scanner.piecesFrom]
    simp only [Param.scanner, hread]
  rw [replaced, Scanner.replace, hpieces]
  exact ⟨_, rfl⟩

lemma replaced_hole (hv : (Atom.hole name).isValid) (h : endsSegment cs)
    (hg : IsGiven named (Atom.param name)) :
    replaced named ((Atom.hole name).write ++ cs) =
      '/' :: quoted named name ++ replaced named cs := by
  have hread := read?_hole hv h none
  have hcolon : cs.head? ≠ some ':' := by
    cases cs with
    | nil => simp
    | cons c cs =>
      have hc : c = '/' ∨ c = '\\' := by simpa [endsSegment] using h
      rcases hc with rfl | rfl <;> simp
  rw [← write_param] at hread ⊢
  have hpieces : Param.scanner.pieces ((Atom.param name).write ++ cs) =
      .token (Atom.param name) :: Param.scanner.pieces cs := by
    rw [Scanner.pieces, ← piecesFrom_before hcolon (Atom.param name).write.getLast?]
    exact Scanner.piecesFrom_write (Param.scanner_isFaithful.write_ne_nil _) hread
  rw [replaced, Scanner.replace, hpieces]
  change fillParam named (Atom.param name) ++ replaced named cs = _
  rw [hg.fillParam_eq]
  rfl

lemma replaced_slash (h : isApart cs) :
    replaced named ('\\' :: '/' :: cs) = '\\' :: '/' :: replaced named cs := by
  rw [replaced_cons (Param.read?_of_ne (by decide) (by decide) (by decide)) (by simp),
    replaced_char (by decide) h]

lemma replaced_backslashes (h : isApart cs) :
    replaced named ('\\' :: '\\' :: cs) = '\\' :: '\\' :: replaced named cs := by
  have hread (cs : List Char) : Param.read? none ('\\' :: cs) = none :=
    Param.read?_of_ne (by decide) (by decide) (by decide)
  rw [replaced_cons (hread _) (by simp), replaced_cons (hread _) (head?_of_isApart h).2]

/-- A path of characters, escaped characters and parameters, each of which is given a text. -/
structure Fills (named : OrderedMap Value) (as : List Atom) : Prop where
  atomic : isAtomic as
  no_set : ∀ u, Atom.set u ∉ as
  given : ∀ name, Atom.hole name ∈ as → IsGiven named (Atom.param name)

lemma Fills.tail (h : Fills named (a :: as)) : Fills named as where
  atomic := (isAtomic_cons h.atomic).2
  no_set u hu := h.no_set u (List.mem_cons_of_mem _ hu)
  given name hn := h.given name (List.mem_cons_of_mem _ hn)

/-- A parameter is followed by a slash, escaped or not, or ends the path. -/
lemma Fills.leads (h : Fills named (.hole name :: as)) : as.head?.all Atom.leads := by
  have := (Bool.and_eq_true_iff.mp h.atomic).2
  rw [isSegmented, Bool.and_eq_true] at this
  exact this.1

lemma Fills.replaced_hole (h : Fills named (.hole name :: as)) :
    replaced named (atomPath (.hole name :: as)) =
      '/' :: quoted named name ++ replaced named (atomPath as) :=
  Path.replaced_hole (isAtomic_cons h.atomic).1 (endsSegment_atomPath h.leads)
    (h.given name List.mem_cons_self)

lemma Fills.quoted_ne_nil (h : Fills named (.hole name :: as)) : quoted named name ≠ [] :=
  (h.given name List.mem_cons_self).fits.ne_nil

lemma not_mem_quoted (hc : Percent.isSegmentChar c = false) : c ∉ quoted named name := by
  intro hm
  rw [(Percent.mem_encodeSegment hm).1] at hc
  cases hc

/-- Nothing that is filled begins with a star. -/
lemma Fills.head?_replaced (h : Fills named as) :
    (replaced named (atomPath as)).head? ≠ some '*' := by
  cases as with
  | nil => simp [replaced, Scanner.replace, Scanner.pieces, Scanner.piecesFrom, atomPath]
  | cons a as =>
    obtain ⟨hv, has⟩ := isAtomic_cons h.atomic
    cases a with
    | char c =>
      change (replaced named (c :: atomPath as)).head? ≠ _
      rw [replaced_char hv (isApart_atomPath has)]
      rcases isFree_or_slash hv with hc | rfl
      · simpa using isFree_ne hc (d := '*') (by decide)
      · simp
    | escape c =>
      obtain ⟨z, hz⟩ := replaced_backslash named (c :: atomPath as)
      change (replaced named ('\\' :: c :: atomPath as)).head? ≠ _
      rw [hz]
      simp
    | set u => exact absurd List.mem_cons_self (h.no_set u)
    | hole name =>
      rw [h.replaced_hole]
      simp

def starred (named : OrderedMap Value) (positional : List Value) (cs : List Char) : List Char :=
  trailingStar.replaceWith (fillStar named) positional cs

/-- What is before a star does not matter. -/
lemma piecesFrom_star (before : Option Char) (cs : List Char) :
    trailingStar.piecesFrom 0 before cs = trailingStar.pieces cs := by
  have hread (cs : List Char) : trailingStar.read? before cs = trailingStar.read? none cs := by
    simp only [trailingStar]
    split <;> simp_all
  cases cs with
  | nil => rfl
  | cons c cs =>
    rw [Scanner.pieces, Scanner.piecesFrom, Scanner.piecesFrom]
    simp only [hread]

lemma starred_cons (h : c = '/' → cs.head? ≠ some '*') :
    starred named positional (c :: cs) = c :: starred named positional cs := by
  have hread : trailingStar.read? none (c :: cs) = none := by
    simp only [trailingStar]
    split
    · next heq =>
      obtain ⟨rfl, rfl⟩ := List.cons.inj heq
      exact absurd rfl (h rfl)
    · rfl
  have hpieces : trailingStar.pieces (c :: cs) = .plain c :: trailingStar.pieces cs := by
    rw [Scanner.pieces, Scanner.piecesFrom]
    simp only [hread, piecesFrom_star (some c)]
  rw [starred, Scanner.replaceWith_eq_render, hpieces, starred, Scanner.replaceWith_eq_render]
  rfl

/-- A text without slashes stays where the rest of the path is filled. -/
lemma starred_append {u : List Char} (h : '/' ∉ u) :
    starred named positional (u ++ cs) = u ++ starred named positional cs := by
  induction u with
  | nil => rfl
  | cons c u ih =>
    obtain ⟨hc, hu⟩ := List.ne_and_not_mem_of_not_mem_cons h
    rw [List.cons_append, starred_cons fun he => absurd he.symm hc, ih hu, List.cons_append]

/-! ### What is left of a path that is filled -/

/-- What a filled path is up to its query: its characters, its values, and its escaped characters
with their backslashes. Only what is behind an escaped slash or an escaped backslash matters. -/
inductive Leaves (value : List Char → List Char) : List Atom → List Char → Prop
  | nil : Leaves value [] []
  | hash {as : List Atom} : Leaves value (.char '#' :: as) []
  | char {c : Char} {as : List Atom} {t : List Char} :
      c ≠ '#' → Leaves value as t → Leaves value (.char c :: as) (c :: t)
  | hole {name : List Char} {as : List Atom} {t : List Char} :
      Leaves value as t → Leaves value (.hole name :: as) ('/' :: value name ++ t)
  | slash {as : List Atom} {t : List Char} :
      Leaves value as t → Leaves value (.escape '/' :: as) ('\\' :: '/' :: t)
  | backslash {as : List Atom} {t : List Char} :
      Leaves value as t → Leaves value (.escape '\\' :: as) ('\\' :: '\\' :: t)
  | other {c : Char} {as : List Atom} {t : List Char} :
      c ≠ '/' → c ≠ '\\' → Leaves value (.escape c :: as) ('\\' :: t)

lemma stripQuery_cons (hq : c ≠ '?') (hh : c ≠ '#') (cs : List Char) :
    stripQuery (c :: cs) = c :: stripQuery cs := by
  simp [stripQuery, hq, hh]

lemma stripQuery_append {u : List Char} (hq : '?' ∉ u) (hh : '#' ∉ u) (cs : List Char) :
    stripQuery (u ++ cs) = u ++ stripQuery cs := by
  induction u with
  | nil => rfl
  | cons c u ih =>
    obtain ⟨hqc, hqu⟩ := List.ne_and_not_mem_of_not_mem_cons hq
    obtain ⟨hhc, hhu⟩ := List.ne_and_not_mem_of_not_mem_cons hh
    rw [List.cons_append, stripQuery_cons hqc.symm hhc.symm, ih hqu hhu, List.cons_append]

/-- A filled path up to its query, character by character. -/
theorem leaves_fill (positional : List Value) (h : Fills named as) :
    Leaves (quoted named) as (stripQuery (fill named positional (atomPath as))) := by
  change Leaves _ _ (stripQuery (starred named positional (replaced named (atomPath as))))
  induction as with
  | nil => exact .nil
  | cons a as ih =>
    obtain ⟨hv, has⟩ := isAtomic_cons h.atomic
    have hapart := isApart_atomPath has
    have ih := ih h.tail
    have hstar := h.tail.head?_replaced
    cases a with
    | char c =>
      change Leaves _ _ (stripQuery (starred _ _ (replaced named (c :: atomPath as))))
      rw [replaced_char hv hapart, starred_cons fun _ => hstar]
      by_cases hc : c = '#'
      · subst hc
        exact .hash
      · have hq : c ≠ '?' := by
          rcases isFree_or_slash hv with hf | rfl
          · exact isFree_ne hf (by decide)
          · decide
        rw [stripQuery_cons hq hc]
        exact .char hc ih
    | escape c =>
      change Leaves _ _ (stripQuery (starred _ _ (replaced named ('\\' :: c :: atomPath as))))
      by_cases hs : c = '/'
      · subst hs
        rw [replaced_slash hapart, starred_cons (by simp), starred_cons fun _ => hstar,
          stripQuery_cons (by decide) (by decide), stripQuery_cons (by decide) (by decide)]
        exact .slash ih
      · by_cases hb : c = '\\'
        · subst hb
          rw [replaced_backslashes hapart, starred_cons (by simp), starred_cons fun _ => hstar,
            stripQuery_cons (by decide) (by decide), stripQuery_cons (by decide) (by decide)]
          exact .backslash ih
        · obtain ⟨z, hz⟩ := replaced_backslash named (c :: atomPath as)
          rw [hz, starred_cons (by simp), stripQuery_cons (by decide) (by decide)]
          exact .other hs hb
    | set u => exact absurd List.mem_cons_self (h.no_set u)
    | hole name =>
      have hslash : (quoted named name ++ replaced named (atomPath as)).head? ≠ some '*' := by
        intro he
        rw [List.head?_append_of_ne_nil _ h.quoted_ne_nil] at he
        exact not_mem_quoted (by decide) (List.mem_of_head? he)
      rw [h.replaced_hole, List.cons_append, starred_cons fun _ => hslash,
        starred_append (not_mem_quoted (by decide)), stripQuery_cons (by decide) (by decide),
        stripQuery_append (not_mem_quoted (by decide)) (not_mem_quoted (by decide))]
      exact .hole ih

/-! ### Which filled paths are found again -/

/-- No hash ends the path, and every escaped character is behind a parameter. -/
def isRecovered : List Atom → Bool
  | [] => true
  | .hole _ :: .escape _ :: as => isRecovered as
  | .hole _ :: as => isRecovered as
  | .char c :: as => c != '#' && isRecovered as
  | .escape _ :: _ | .set _ :: _ => false

/-- The backslash before an escaped character. -/
def backing : List Atom → List Char
  | .escape _ :: _ => ['\\']
  | _ => []

/-- What the parameters take where their values stand. The backslash before an escaped slash becomes
a part of the value. -/
def takenBy (value : List Char → List Char) : List Atom → List (List Char)
  | [] => []
  | .hole name :: as => (value name ++ backing as) :: takenBy value as
  | _ :: as => takenBy value as

lemma backing_eq_nil (h : ∀ c bs, as = .escape c :: bs → False) : backing as = [] := by
  unfold backing
  split
  · exact (h _ _ rfl).elim
  · rfl

section Found

variable {casing : Casing} {strict : Bool} {xs : List (List Char)} {t w ending : List Char}

/-- Only a backslash stands for one, whatever the case. -/
lemma eq_backslash (h : (setOf casing [c]).contains '\\') : c = '\\' := by
  have hvariants : ∀ casing : Casing, casing.variants '\\' = ['\\'.toNat] := by
    intro casing
    cases casing <;> decide
  have hc := contains_char.mp h
  rw [hvariants, List.mem_singleton] at hc
  exact Char.toNat_inj.mp hc

lemma not_isEndingOf_backslash (h : IsEndingOf strict ('\\' :: t)) : False := by
  simp [IsEndingOf] at h

/-- A backslash is read by an escaped backslash alone. -/
lemma reads_backslash (h : Fills named (a :: as)) (hr : ReadsAs casing (a :: as) xs w)
    (ht : '\\' :: t = w ++ ending) :
    a = .escape '\\' ∧ ∃ v, ReadsAs casing as xs v ∧ t = v ++ ending := by
  cases hr with
  | @one _ u d _ _ v hu hd hr =>
    obtain ⟨rfl, rfl⟩ := List.cons.inj ht
    cases a with
    | char c =>
      obtain rfl := Option.some.inj hu
      obtain rfl := eq_backslash hd
      exact absurd (isAtomic_cons h.atomic).1 (by decide)
    | escape c =>
      obtain rfl := Option.some.inj hu
      obtain rfl := eq_backslash hd
      exact ⟨rfl, v, hr, rfl⟩
    | set u => exact absurd List.mem_cons_self (h.no_set u)
    | hole name => cases hu
  | hole => exact absurd (List.cons.inj ht).1 (by decide)

/-- A backslash too many is never read. -/
lemma not_reads_backslash {value : List Char → List Char} (h : Fills named as) (k : Nat)
    (hl : Leaves value as t) (hr : ReadsAs casing as xs w)
    (ht : List.replicate (k + 1) '\\' ++ t = w ++ ending) : ¬ IsEndingOf strict ending := by
  induction as generalizing k xs t w with
  | nil =>
    cases hr
    rw [List.replicate_succ, List.nil_append] at ht
    rw [← ht]
    exact not_isEndingOf_backslash
  | cons a as ih =>
    rw [List.replicate_succ] at ht
    obtain ⟨rfl, v, hv, ht⟩ := reads_backslash h hr ht
    cases hl with
    | @backslash _ t hl =>
      refine ih h.tail (k + 1) hl hv (ht ▸ ?_)
      simp [List.replicate_succ']
    | other _ hne => exact absurd rfl hne

/-- Where a text without slashes ends, a parameter that takes it ends too. -/
lemma taken_unique {u x r v : List Char} (hu : '/' ∉ u) (hx : '/' ∉ x)
    (hr : r.head?.all (· == '/')) (hv : v.head?.all (· == '/')) (h : u ++ r = x ++ v) :
    x = u ∧ r = v := by
  obtain rfl := eq_of_slashes hu hx hr hv h
  exact ⟨rfl, List.append_cancel_left h⟩

lemma not_mem_backed : '/' ∉ quoted named name ++ ['\\'] := by
  rw [List.mem_append, not_or]
  exact ⟨not_mem_quoted (by decide), by decide⟩

lemma Leaves.head?_eq {value : List Char → List Char} (hl : Leaves value (a :: as) t)
    (ha : a.leads) (hne : ∀ c, a ≠ .escape c) : t.head? = some '/' := by
  cases hl with
  | hash => cases ha
  | char => rw [List.head?_cons, beq_iff_eq.mp ha]
  | hole => rfl
  | slash | backslash | other => exact absurd rfl (hne _)

/-- Behind a parameter that no escaped character follows, the filled path and what is read of it
both go on with a slash, if at all. -/
lemma heads_behind_hole {x r v : List Char} (h : Fills named (.hole name :: as))
    (hne : ∀ c bs, as = .escape c :: bs → False) (hl : Leaves (quoted named) as r)
    (hr : ReadsAs casing as xs v) (he : IsEndingOf strict ending)
    (htext : quoted named name ++ r = x ++ (v ++ ending)) :
    r.head?.all (· == '/') ∧ (v ++ ending).head?.all (· == '/') := by
  cases as with
  | nil =>
    cases hl
    cases hr
    rw [List.append_nil, List.nil_append] at htext
    have hnot (c : Char) (hc : Percent.isSegmentChar c = false) : c ∉ ending := fun hm =>
      not_mem_quoted hc (htext ▸ List.mem_append_right x hm)
    have hnil : ending = [] := he.eq_nil (hnot _ (by decide)) (hnot _ (by decide))
    simp [hnil]
  | cons a as =>
    have hleads : a.leads := by simpa using h.leads
    rw [hl.head?_eq hleads fun c he => hne c as (he ▸ rfl), List.head?_append, hr.head?_eq hleads]
    simp

/-- What a filled path is read as is what the parameters take. -/
theorem taken_of_reads (h : Fills named as) (hl : Leaves (quoted named) as t)
    (hr : ReadsAs casing as xs w) (ht : t = w ++ ending) (he : IsEndingOf strict ending) :
    isRecovered as ∧ xs = takenBy (quoted named) as := by
  induction as using isRecovered.induct generalizing xs t w with
  | case1 =>
    cases hr
    exact ⟨rfl, rfl⟩
  | case2 name c as ih =>
    obtain rfl : c = '/' := by simpa [Atom.leads] using h.leads
    cases hl with
    | hole hl =>
      cases hl with
      | @slash _ t hl =>
        cases hr with
        | one hu => cases hu
        | @hole _ x _ xs v hne hx hr =>
          have hhead := hr.head?_eq rfl
          obtain ⟨d, v, rfl, -, hrest⟩ := (readsAs_one rfl).mp hr
          obtain rfl := Option.some.inj hhead
          obtain ⟨rfl, htails⟩ := taken_unique (u := quoted named name ++ ['\\']) (r := '/' :: t)
            (v := '/' :: v ++ ending) not_mem_backed hx rfl rfl (by simpa using ht)
          obtain ⟨hk, hxs⟩ := ih h.tail.tail hl hrest (List.cons.inj htails).2
          exact ⟨hk, congrArg (_ :: ·) hxs⟩
      | other hs => exact absurd rfl hs
  | case3 name as hne ih =>
    have hkept : isRecovered (.hole name :: as) = isRecovered as := by simp [isRecovered]
    rw [hkept, takenBy, backing_eq_nil hne, List.append_nil]
    cases hl with
    | @hole _ _ r hl =>
      cases hr with
      | one hu => cases hu
      | @hole _ x _ xs v _ hx hr =>
        have htext : quoted named name ++ r = x ++ (v ++ ending) := by simpa using ht
        obtain ⟨hr', hv'⟩ := heads_behind_hole h hne hl hr he htext
        obtain ⟨rfl, htails⟩ := taken_unique (not_mem_quoted (by decide)) hx hr' hv' htext
        obtain ⟨hk, hxs⟩ := ih h.tail hl hr htails
        exact ⟨hk, congrArg (_ :: ·) hxs⟩
  | case4 c as ih =>
    obtain ⟨d, v, rfl, -, hr⟩ := (readsAs_one rfl).mp hr
    cases hl with
    | hash => cases ht
    | char hc hl =>
      obtain ⟨hk, hxs⟩ := ih h.tail hl hr (List.cons.inj ht).2
      exact ⟨by simp [isRecovered, hc, hk], hxs⟩
  | case5 c as =>
    exfalso
    cases hl with
    | slash => exact absurd (reads_backslash h hr ht).1 (by decide)
    | other _ hb => exact hb (Atom.escape.inj (reads_backslash h hr ht).1)
    | backslash hl =>
      obtain ⟨-, v, hv, ht⟩ := reads_backslash h hr ht
      exact not_reads_backslash h.tail 0 hl hv ht he
  | case6 u as => exact absurd List.mem_cons_self (h.no_set u)

/-- A filled path is read if it is recovered. -/
theorem reads_taken (h : Fills named as) (hk : isRecovered as) (hl : Leaves (quoted named) as t) :
    ReadsAs casing as (takenBy (quoted named) as) t := by
  have hself (c : Char) : (setOf casing [c]).contains c :=
    contains_char.mpr (casing.mem_variants c)
  induction as using isRecovered.induct generalizing t with
  | case1 =>
    cases hl
    exact .nil
  | case2 name c as ih =>
    obtain rfl : c = '/' := by simpa [Atom.leads] using h.leads
    cases hl with
    | hole hl =>
      cases hl with
      | slash hl =>
        have hrest : ReadsAs casing (.escape '/' :: as) _ _ :=
          .one rfl (hself '/') (ih h.tail.tail hk hl)
        have hne : quoted named name ++ ['\\'] ≠ [] := by simp
        have : ReadsAs casing (.hole name :: .escape '/' :: as) _ _ :=
          .hole hne not_mem_backed hrest
        simpa [takenBy, backing] using this
      | other hs => exact absurd rfl hs
  | case3 name as hne ih =>
    cases hl with
    | hole hl =>
      have hk' : isRecovered as := by simpa [isRecovered, hne] using hk
      rw [takenBy, backing_eq_nil hne, List.append_nil]
      exact .hole h.quoted_ne_nil (not_mem_quoted (by decide)) (ih h.tail hk' hl)
  | case4 c as ih =>
    obtain ⟨hc, hk⟩ := Bool.and_eq_true_iff.mp hk
    cases hl with
    | hash => exact absurd hc (by decide)
    | char _ hl => exact .one rfl (hself c) (ih h.tail hk hl)
  | case5 c as => cases hk
  | case6 u as => cases hk

end Found

/-! ### The parameters of what is found again -/

/-- What is given for the parameters, by their names. -/
def suppliedTo (named : OrderedMap Value) (as : List Atom) : List (String × String) :=
  (holeNames as).map fun name => (name, shown named name.toList)

/-- What the parameters are, by their names: what is given for them, with a backslash where an
escaped character follows. -/
def boundTo (named : OrderedMap Value) : List Atom → List (String × String)
  | [] => []
  | .hole name :: as =>
    (String.ofList name, shown named name ++ String.ofList (backing as)) :: boundTo named as
  | _ :: as => boundTo named as

lemma decoded_backed (name : List Char) (as : List Atom) :
    decoded (quoted named name ++ backing as) =
      shown named name ++ String.ofList (backing as) := by
  have hplain : decoded (quoted named name) = shown named name := by
    rw [decoded, quoted, Percent.decode_encodeSegment, String.ofList_toList]
  unfold backing
  split
  · rw [decoded, quoted, Percent.decode_encodeSegment_concat (by decide) (by decide),
      String.ofList_append, String.ofList_toList]
  · simpa using hplain

/-- What the parameters take is what they are, when it is decoded. -/
lemma zip_takenBy (named : OrderedMap Value) (as : List Atom) :
    (holeNames as).zip ((takenBy (quoted named) as).map decoded) = boundTo named as := by
  induction as with
  | nil => rfl
  | cons a as ih =>
    cases a with
    | hole name =>
      exact congrArg₂ (fun text pairs => (String.ofList name, text) :: pairs)
        (decoded_backed name as) ih
    | _ => exact ih

/-- Without escaped characters the parameters are what is given for them. -/
lemma boundTo_eq (h : ∀ c, Atom.escape c ∉ as) : boundTo named as = suppliedTo named as := by
  induction as with
  | nil => rfl
  | cons a as ih =>
    have ih := ih fun c hc => h c (List.mem_cons_of_mem _ hc)
    cases a with
    | hole name =>
      have hback : backing as = [] := backing_eq_nil fun c bs he => h c (by simp [he])
      have hhead : shown named name ++ String.ofList (backing as) =
          shown named (String.ofList name).toList := by simp [hback]
      exact congrArg₂ (fun text pairs => (String.ofList name, text) :: pairs) hhead ih
    | _ => exact ih

/-- What is recovered and leaves every parameter what is given for it has nothing escaped. -/
lemma not_mem_of_boundTo_eq (hk : isRecovered as) (hb : boundTo named as = suppliedTo named as) :
    (∀ c, Atom.escape c ∉ as) ∧ Atom.char '#' ∉ as := by
  induction as using isRecovered.induct with
  | case1 => simp
  | case2 name c as ih =>
    exfalso
    have hhead : shown named name ++ "\\" = shown named (String.ofList name).toList :=
      (Prod.ext_iff.mp (List.cons.inj hb).1).2
    rw [String.toList_ofList] at hhead
    exact absurd (congrArg String.length hhead) (by simp)
  | case3 name as hne ih =>
    have hkept : isRecovered (.hole name :: as) = isRecovered as := by simp [isRecovered]
    rw [hkept] at hk
    obtain ⟨he, hh⟩ := ih hk (List.cons.inj hb).2
    simp [he, hh]
  | case4 c as ih =>
    obtain ⟨hc, hk⟩ := Bool.and_eq_true_iff.mp hk
    obtain ⟨he, hh⟩ := ih hk hb
    have hne : '#' ≠ c := (bne_iff_ne.mp hc).symm
    exact ⟨by simpa using he, by simp [hne, hh]⟩
  | case5 c as => cases hk
  | case6 u as => cases hk

lemma keys_boundTo (named : OrderedMap Value) (as : List Atom) :
    OrderedMap.keys (boundTo named as) = holeNames as := by
  induction as with
  | nil => rfl
  | cons a as ih =>
    cases a with
    | hole name => exact congrArg (String.ofList name :: ·) ih
    | _ => exact ih

lemma keys_suppliedTo (named : OrderedMap Value) (as : List Atom) :
    OrderedMap.keys (suppliedTo named as) = holeNames as := by
  rw [OrderedMap.keys, suppliedTo, List.map_map]
  exact List.map_id _

/-- A path without escaped characters and without a hash is recovered. -/
lemma isRecovered_of_not_mem (hset : ∀ u, Atom.set u ∉ as) (he : ∀ c, Atom.escape c ∉ as)
    (hh : Atom.char '#' ∉ as) : isRecovered as := by
  induction as using isRecovered.induct with
  | case1 => rfl
  | case2 name c as ih => exact absurd (List.mem_cons_of_mem _ List.mem_cons_self) (he c)
  | case3 name as hne ih =>
    have hkept : isRecovered (.hole name :: as) = isRecovered as := by simp [isRecovered]
    rw [hkept]
    exact ih (fun u hu => hset u (List.mem_cons_of_mem _ hu))
      (fun c hc => he c (List.mem_cons_of_mem _ hc)) fun hm => hh (List.mem_cons_of_mem _ hm)
  | case4 c as ih =>
    have hc : c ≠ '#' := by
      rintro rfl
      exact hh List.mem_cons_self
    have := ih (fun u hu => hset u (List.mem_cons_of_mem _ hu))
      (fun c hc => he c (List.mem_cons_of_mem _ hc)) fun hm => hh (List.mem_cons_of_mem _ hm)
    simp [isRecovered, hc, this]
  | case5 c as => exact absurd List.mem_cons_self (he c)
  | case6 u as => exact absurd List.mem_cons_self (hset u)

/-- A filled path that is recovered is found, and the parameters take what stands for them. -/
theorem search_fill (positional : List Value) (caseSensitive strict : Bool)
    (h : Fills named as) (hk : isRecovered as) :
    ∃ m, (atomPattern caseSensitive strict as).matcher.search
        (stripQuery (fill named positional (atomPath as))) = some m ∧ m.isCrossed = false ∧
      paramsOf (atomSlots as)
        (decodeGroups m (stripQuery (fill named positional (atomPath as)))) =
          .ofPairs (boundTo named as) := by
  have hleaves := leaves_fill positional h
  have hfinds : Finds (casingOf !caseSensitive) strict as _ _ :=
    ⟨_, [], (List.append_nil _).symm, reads_taken h hk hleaves, .inl (by simp)⟩
  obtain ⟨m, hm⟩ := Option.isSome_iff_exists.mp (search_isSome_of_finds hfinds)
  obtain ⟨xs, ⟨w, ending, ht, hreads, he⟩, hcross, htexts⟩ := finds_of_search hm
  obtain ⟨-, rfl⟩ := taken_of_reads h hleaves hreads ht he
  refine ⟨m, hm, hcross, ?_⟩
  rw [decodeGroups_eq htexts, atomSlots_eq h.no_set, namedSlots, paramsOf_named, zip_takenBy]

/-- Any other filled path is not found. -/
theorem search_fill_eq_none (positional : List Value) (caseSensitive strict : Bool)
    (h : Fills named as) (hk : isRecovered as = false) :
    (atomPattern caseSensitive strict as).matcher.search
      (stripQuery (fill named positional (atomPath as))) = none := by
  cases hm : (atomPattern caseSensitive strict as).matcher.search
      (stripQuery (fill named positional (atomPath as))) with
  | none => rfl
  | some m =>
    obtain ⟨xs, ⟨w, ending, ht, hreads, he⟩, -⟩ := finds_of_search hm
    have hkept := (taken_of_reads h (leaves_fill positional h) hreads ht he).1
    rw [hk] at hkept
    cases hkept

end Path

end ActionRouting
