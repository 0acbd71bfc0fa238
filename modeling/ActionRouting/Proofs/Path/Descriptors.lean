import ActionRouting.Proofs.Path.Origins

/-! What the capture groups of a compiled path come from, in the order in which they open, and when
the descriptors of the path say so. -/
namespace ActionRouting

open Regex Text

namespace Path

def images : List (Piece Fragment) → List Char
  | [] => []
  | .plain c :: ps => c :: images ps
  | .token f :: ps => f.image ++ images ps

/-- The capture groups of some pieces of a path that have `ending` after them, each with how many
characters are left where it opens. A parenthesis that is copied may open one. -/
def origins (ending : List Char) : List (Piece Fragment) → List (Nat × Origin)
  | [] => []
  | .plain c :: ps =>
    (if c = '(' then ((opening (images ps ++ ending)).capture?.map fun name =>
      ((images ps ++ ending).length + 1, Origin.written name)).toList else []) ++ origins ending ps
  | .token f :: ps => f.origins (images ps ++ ending).length ++ origins ending ps

/-- The text of a path has no bracket, and an extension only to group, to name a group or to look
ahead. -/
def isPlain : List Char → Bool
  | [] => true
  | c :: cs => c != '[' && (c != '(' || isTameOpening cs) && isPlain cs

end Path

open ActionRouting.Path

namespace PathSpec

def text? : PathSpec → Option (List Char)
  | .text s => some s.toList
  | .alternatives paths => some (Pattern.joinAlternatives paths)
  | _ => none

end PathSpec

namespace Pattern

def ending (strict : Bool) : List Char := (if strict then [] else ['/', '?']) ++ ['$']

/-- The capture groups of a compiled path, each with how many characters of the source are left
where it opens. -/
def groups (strict : Bool) (text : List Char) : List (Nat × Origin) :=
  origins (ending strict) (Fragment.scanner.pieces text)

/-- The capture groups of a compiled path are known, each with how many characters of the source are
left where it opens, and the descriptors describe them. -/
structure Aligned (p : Pattern) (groups : List (Nat × Origin)) : Prop where
  count : p.slots.length = p.matcher.groupCount
  opens : (openings false p.source.toList).map (·.1) = groups.map (·.1)
  slots : p.slots = groups.map (·.2.slot)
  named : ∀ i k name, groups[i]? = some (k, .written name) → p.matcher.nameOf? (i + 1) = name

end Pattern

namespace Path

def slots : List (Piece Fragment) → List Slot
  | [] => []
  | .plain _ :: ps => slots ps
  | .token f :: ps => (f.origins 0).map (·.2.slot) ++ slots ps

def HasGroups (ps : List (Piece Fragment)) : Prop :=
  ∀ p, .token (.param p) ∈ ps → IsGroup p.captureText

lemma isPlain_of_append {u v : List Char} (h : isPlain (u ++ v)) : isPlain v := by
  induction u with
  | nil => exact h
  | cons c u ih =>
    simp only [List.cons_append, isPlain, Bool.and_eq_true] at h
    exact ih h.2

lemma isTame_of_isPlain (hidden : Bool) {u v : List Char} (h : isPlain (u ++ ')' :: v)) :
    isTameFrom hidden (u ++ [')']) ∧ '[' ∉ u := by
  induction u generalizing hidden with
  | nil => cases hidden <;> exact ⟨rfl, by simp⟩
  | cons c u ih =>
    simp only [List.cons_append, isPlain, Bool.and_eq_true, bne_iff_ne, Bool.or_eq_true] at h
    obtain ⟨⟨hb, ho⟩, hu⟩ := h
    refine ⟨?_, by simpa [hb.symm] using (ih false hu).2⟩
    cases hidden with
    | true => exact (ih false hu).1
    | false =>
      have hat : isTameAt c (u ++ [')']) := by
        unfold isTameAt
        split
        · next hc =>
          rw [← isTameOpening_append_close u v]
          exact ho.resolve_left (by simpa using hc)
        · rfl
      simp only [List.cons_append, isTameFrom, Bool.and_eq_true]
      exact ⟨hat, (ih _ hu).1⟩

lemma isPlain_param {p : Param} (hp : p.IsRead) {cs : List Char} (h : isPlain (p.write ++ cs)) :
    p.IsPlain := by
  intro own ho
  obtain ⟨body, rfl, hb⟩ := hp.capture_eq own ho
  have hw : ∃ u v, p.write ++ cs = u ++ (('(' :: body) ++ ')' :: v) :=
    ⟨(if p.slash then ['/'] else []) ++ (if p.dot then ['.'] else []) ++ ':' :: p.name,
      (if p.optional then ['?'] else []) ++ (if p.star then ['*'] else []) ++ cs, by
        simp [Param.write, ho]⟩
  obtain ⟨u, v, hw⟩ := hw
  rw [hw] at h
  obtain ⟨ht, hbr⟩ := isTame_of_isPlain false (isPlain_of_append h)
  exact ⟨body, rfl, hb, fun hm => hbr (List.mem_cons_of_mem _ hm), ht⟩

/-- What pieces become, if they become anything. -/
theorem ofPieces_eq_ok {before : Option Char} {cs e : List Char} {s : List Slot}
    {ps : List (Piece Fragment)} (h : Fragment.scanner.Cuts before cs ps) (hp : isPlain cs)
    (ho : Pattern.ofPieces ps = .ok (e, s)) : HasGroups ps ∧ e = images ps ∧ s = slots ps := by
  induction h generalizing e s with
  | nil =>
    cases ho
    exact ⟨fun _ hm => by simp at hm, rfl, rfl⟩
  | @plain _ c cs ps _ _ ih =>
    have hcs := isPlain_of_append (u := [c]) hp
    simp only [Pattern.ofPieces] at ho
    cases hr : Pattern.ofPieces ps with
    | error e =>
      rw [hr] at ho
      cases ho
    | ok r =>
      rw [hr] at ho
      cases ho
      obtain ⟨hg, he, hs⟩ := ih hcs hr
      exact ⟨fun p hm => hg p (by simpa using hm), congrArg _ he, hs⟩
  | @token _ f cs ps hread _ ih =>
    have hf : ∀ p, f = .param p → p.IsPlain := by
      rintro p rfl
      obtain ⟨hp', -⟩ := Param.read?_eq_some (Fragment.param_of_read? hread)
      exact isPlain_param hp' hp
    simp only [Pattern.ofPieces] at ho
    cases hof : Pattern.ofFragment f with
    | error e =>
      rw [hof] at ho
      cases ho
    | ok first =>
      cases hr : Pattern.ofPieces ps with
      | error e =>
        rw [hof, hr] at ho
        cases ho
      | ok r =>
        rw [hof, hr] at ho
        cases ho
        obtain ⟨hg, he, hs⟩ := ih (isPlain_of_append hp) hr
        obtain ⟨hg', he', hs'⟩ := ofFragment_eq_ok hf hof
        refine ⟨fun p hm => ?_, ?_, ?_⟩
        · rcases List.mem_cons.mp hm with hm | hm
          · cases hm
            exact hg' p rfl
          · exact hg p hm
        · rw [he, he', images]
        · rw [hs, hs', slots]

lemma head?_images {before : Option Char} {cs ending : List Char} {ps : List (Piece Fragment)}
    (h : Fragment.scanner.Cuts before cs ps) (hc : cs.head? ≠ some '?')
    (he : ending.head? ≠ some '?') : (images ps ++ ending).head? ≠ some '?' := by
  cases h with
  | nil => exact he
  | plain => exact hc
  | @token _ f =>
    rcases f with ⟨⟨slash, dot, name, capture, optional, star⟩⟩ | c | (_ | name) | _ | _
    · cases optional <;> cases slash <;> simp [images, Fragment.image, Param.head]
    all_goals simp [images, Fragment.image, Fragment.write]

lemma head_image (f : Fragment) : ∃ c u, f.image = c :: u ∧ c ≠ '>' ∧ ¬ isWord c := by
  have hslash : ¬ isWord '/' := by decide
  have hopen : ¬ isWord '(' := by decide
  have hesc : ¬ isWord '\\' := by decide
  rcases f with ⟨⟨slash, dot, name, capture, optional, star⟩⟩ | c | (_ | name) | _ | _
  · cases optional <;> cases slash
    · exact ⟨'(', _, rfl, by decide, hopen⟩
    · exact ⟨'/', _, rfl, by decide, hslash⟩
    · exact ⟨'(', _, rfl, by decide, hopen⟩
    · exact ⟨'(', _, rfl, by decide, hopen⟩
  · exact ⟨'\\', _, rfl, by decide, hesc⟩
  · exact ⟨'(', _, rfl, by decide, hopen⟩
  · exact ⟨'(', _, rfl, by decide, hopen⟩
  · exact ⟨'\\', _, rfl, by decide, hesc⟩
  · exact ⟨'(', _, rfl, by decide, hopen⟩

/-- A name of letters in a compiled path stands in the path. -/
lemma takeWhile_images {before : Option Char} {cs : List Char} {ps : List (Piece Fragment)}
    (h : Fragment.scanner.Cuts before cs ps) (strict : Bool)
    (hw : ((images ps ++ Pattern.ending strict).takeWhile (· ≠ '>')).all isWord) :
    ∃ rest, cs = (images ps ++ Pattern.ending strict).takeWhile (· ≠ '>') ++ '>' :: rest := by
  induction h with
  | nil =>
    cases strict
    · exact absurd hw (by decide)
    · exact absurd hw (by decide)
  | @plain before c cs ps _ _ ih =>
    rw [images, List.cons_append] at hw ⊢
    by_cases hc : c = '>'
    · subst hc
      exact ⟨cs, rfl⟩
    · rw [List.takeWhile_cons_of_pos (by simpa using hc)] at hw ⊢
      simp only [List.all_cons, Bool.and_eq_true] at hw
      obtain ⟨rest, hr⟩ := ih hw.2
      exact ⟨rest, congrArg (c :: ·) hr⟩
  | @token before f cs ps _ _ ih =>
    obtain ⟨c, u, hi, hne, hc⟩ := head_image f
    rw [images, hi, List.cons_append, List.cons_append,
      List.takeWhile_cons_of_pos (by simpa using hne)] at hw
    simp only [List.all_cons, Bool.and_eq_true] at hw
    exact absurd hw.1 hc

/-- An extension that is copied is the same in the compiled path, and begins a group that captures
only if the scanner does not read its name. -/
lemma cuts_extension {cs : List Char} {ps : List (Piece Fragment)}
    (h : Fragment.scanner.Cuts (some '(') cs ps)
    (hn : Fragment.readGroup cs = none) (ht : isTameOpening cs) (strict : Bool) :
    isTameOpening (images ps ++ Pattern.ending strict) ∧
      (opening (images ps ++ Pattern.ending strict) = .plain ∨
        ∃ name, opening (images ps ++ Pattern.ending strict) = .capture (some name) ∧
          ¬ Fragment.isName name.toList) := by
  rcases isTameOpening_cases ht with ⟨ds, rfl | rfl | rfl | rfl⟩ | hne
  · obtain ⟨ps₁, rfl, h₁⟩ := h.of_none rfl
    obtain ⟨ps₂, rfl, -⟩ := h₁.of_none rfl
    exact ⟨rfl, .inl rfl⟩
  · obtain ⟨ps₁, rfl, h₁⟩ := h.of_none rfl
    obtain ⟨ps₂, rfl, -⟩ := h₁.of_none rfl
    exact ⟨rfl, .inl rfl⟩
  · obtain ⟨ps₁, rfl, h₁⟩ := h.of_none rfl
    obtain ⟨ps₂, rfl, -⟩ := h₁.of_none rfl
    exact ⟨rfl, .inl rfl⟩
  · obtain ⟨ps₁, rfl, h₁⟩ := h.of_none rfl
    obtain ⟨ps₂, rfl, h₂⟩ := h₁.of_none rfl
    obtain ⟨ps₃, rfl, h₃⟩ := h₂.of_none rfl
    refine ⟨rfl, .inr ⟨_, rfl, fun hw => ?_⟩⟩
    rw [String.toList_ofList] at hw
    change Fragment.isName ((images ps₃ ++ Pattern.ending strict).takeWhile (· ≠ '>')) at hw
    have hall := hw
    simp only [Fragment.isName, Bool.and_eq_true] at hall
    obtain ⟨rest, rfl⟩ := takeWhile_images h₃ strict hall.2
    rw [Fragment.readGroup_named hw] at hn
    cases hn
  · exfalso
    unfold Fragment.readGroup at hn
    split at hn
    · exact hne rfl
    · exact hne rfl
    · cases hn

lemma isKept {before : Option Char} {f : Fragment} {cs ending : List Char}
    {ps : List (Piece Fragment)} (hr : Fragment.read? before (f.write ++ cs) = some f)
    (h : Fragment.scanner.Cuts f.write.getLast? cs ps)
    (hg : ∀ p, f = .param p → IsGroup p.captureText) (he : ending.head? ≠ some '?') :
    f.IsKept (images ps ++ ending) := by
  refine ⟨hg, ?_, ?_⟩
  · rintro rfl
    have hgroup : Fragment.readGroup cs = some (.group none) := hr
    rcases Fragment.readGroup_eq_some hgroup with ⟨-, hne⟩ | ⟨_, _, hf, -⟩
    · exact head?_images h hne he
    · cases hf
  · rintro name rfl
    have hgroup : Fragment.readGroup (['?', 'P', '<'] ++ name ++ ['>'] ++ cs) =
      some (.group (some name)) := hr
    rcases Fragment.readGroup_eq_some hgroup with ⟨hf, -⟩ | ⟨_, _, hf, hw, -⟩
    · cases hf
    · cases hf
      exact hw

lemma captures_ending (strict : Bool) : captures (parens (Pattern.ending strict)) = [] := by
  cases strict <;> rfl

lemma isTame_ending (strict : Bool) : IsTame (Pattern.ending strict) := by
  cases strict <;> rfl

lemma isPlain_plain {c : Char} {cs : List Char} (h : isPlain (c :: cs)) :
    c ≠ '[' ∧ (c = '(' → isTameOpening cs) ∧ isPlain cs := by
  simp only [isPlain, Bool.and_eq_true, bne_iff_ne, Bool.or_eq_true] at h
  exact ⟨h.1.1, fun hc => h.1.2.resolve_left (by simpa using hc), h.2⟩

lemma cons_of_read?_backslash (before : Option Char) {cs : List Char}
    (h : Fragment.read? before ('\\' :: cs) = none) : cs = [] ∨ ∃ ds, cs = '\n' :: ds := by
  cases cs with
  | nil => exact .inl rfl
  | cons c ds =>
    by_cases hc : c = '\n'
    · exact .inr ⟨ds, by rw [hc]⟩
    · simp [Fragment.read?, Param.read?, Param.eat, hc] at h

/-- The capture groups of a compiled path are where their origins say. -/
theorem captures_images {before : Option Char} {cs : List Char} {ps : List (Piece Fragment)}
    (h : Fragment.scanner.Cuts before cs ps) (hp : isPlain cs) (hg : HasGroups ps)
    (strict : Bool) :
    IsTame (images ps ++ Pattern.ending strict) ∧
      List.Forall₂ Agrees (captures (parens (images ps ++ Pattern.ending strict)))
        (origins (Pattern.ending strict) ps) := by
  have hend : (Pattern.ending strict).head? ≠ some '?' := by cases strict <;> decide
  induction h with
  | nil =>
    refine ⟨isTame_ending strict, ?_⟩
    rw [images, List.nil_append, captures_ending]
    exact .nil
  | @plain before c cs ps hr hcuts ih =>
    obtain ⟨hb, ho, hcs⟩ := isPlain_plain hp
    obtain ⟨ht, ha⟩ := ih hcs fun p hm => hg p (List.mem_cons_of_mem _ hm)
    rw [images, List.cons_append, origins]
    by_cases hopen : c = '('
    · subst hopen
      obtain ⟨hto, -⟩ := cuts_extension hcuts hr (ho rfl) strict
      refine ⟨(isTame_open _).mpr ⟨hto, ht⟩, ?_⟩
      rw [parens_open, captures_cons, if_pos rfl]
      refine List.rel_append ?_ ha
      cases (opening (images ps ++ Pattern.ending strict)).capture? with
      | none => exact .nil
      | some name => exact .cons ⟨rfl, fun _ h => by cases h; rfl⟩ .nil
    rw [if_neg hopen, List.nil_append]
    by_cases hesc : c = '\\'
    · subst hesc
      rcases cons_of_read?_backslash before hr with rfl | ⟨ds, rfl⟩
      · obtain rfl := Fragment.scanner_isFaithful.eq_nil hcuts
        exact ⟨by cases strict <;> rfl, by cases strict <;> exact .nil⟩
      · obtain ⟨qs, rfl, -⟩ := hcuts.of_none rfl
        exact ⟨ht, ha⟩
    by_cases hclose : c = ')'
    · subst hclose
      exact ⟨(isTame_close _).mpr ht, ha⟩
    have hi : isInert c := by simp [isInert, hopen, hclose, hb, hesc]
    rw [isTame_inert hi, parens_inert hi]
    exact ⟨ht, ha⟩
  | @token before f cs ps hr hcuts ih =>
    obtain ⟨ht, ha⟩ := ih (isPlain_of_append hp) fun p hm => hg p (List.mem_cons_of_mem _ hm)
    have hf := isKept hr hcuts (fun p hp => hg p (by simp [hp])) hend
    obtain ⟨gs, he, hgs⟩ := captures_fragment hf
    refine ⟨?_, ?_⟩
    · rw [images, List.append_assoc]
      exact isTame_fragment hf ht
    · rw [images, List.append_assoc, he, origins]
      exact List.rel_append hgs ha

/-- The names of the groups that are written in a path are names that the scanner reads. -/
def IsReadable (groups : List (Nat × Origin)) : Prop := ∀ g ∈ groups, g.2.isReadable

instance (groups : List (Nat × Origin)) : Decidable (IsReadable groups) :=
  inferInstanceAs (Decidable (∀ g ∈ groups, g.2.isReadable))

lemma isReadable_append {as bs : List (Nat × Origin)} :
    IsReadable (as ++ bs) ↔ IsReadable as ∧ IsReadable bs := List.forall_mem_append

/-- The descriptors are those of the capture groups, unless the name of one was not read. -/
theorem slots_eq_iff {before : Option Char} {cs : List Char} {ps : List (Piece Fragment)}
    (h : Fragment.scanner.Cuts before cs ps) (hp : isPlain cs) (hg : HasGroups ps) (strict : Bool) :
    (¬ IsReadable (origins (Pattern.ending strict) ps) ∧
        (slots ps).length < (origins (Pattern.ending strict) ps).length) ∨
      (IsReadable (origins (Pattern.ending strict) ps) ∧
        slots ps = (origins (Pattern.ending strict) ps).map (·.2.slot)) := by
  have hend : (Pattern.ending strict).head? ≠ some '?' := by cases strict <;> decide
  induction h with
  | nil => exact .inr ⟨fun _ hm => (List.not_mem_nil hm).elim, rfl⟩
  | @plain before c cs ps hr hcuts ih =>
    obtain ⟨-, ho, hcs⟩ := isPlain_plain hp
    have ih := ih hcs fun p hm => hg p (List.mem_cons_of_mem _ hm)
    rw [slots, origins, isReadable_append]
    by_cases hopen : c = '('
    · subst hopen
      rcases (cuts_extension hcuts hr (ho rfl) strict).2 with hs | ⟨name, hs, hn⟩
      · simpa [hs, Paren.capture?, IsReadable] using ih
      · have hle : (slots ps).length ≤ (origins (Pattern.ending strict) ps).length := by
          rcases ih with ⟨-, hlt⟩ | ⟨-, he⟩
          · exact Nat.le_of_lt hlt
          · exact Nat.le_of_eq (by rw [he, List.length_map])
        simp only [hs, if_true, Paren.capture?, Option.map_some, Option.toList_some]
        refine .inl ⟨fun hread => hn (hread.1 _ (List.mem_singleton_self _)), ?_⟩
        rw [List.length_append, List.length_singleton]
        omega
    · simpa [hopen, IsReadable] using ih
  | @token before f cs ps hr hcuts ih =>
    have ih := ih (isPlain_of_append hp) fun p hm => hg p (List.mem_cons_of_mem _ hm)
    have hgroup : ∀ p, f = .param p → IsGroup p.captureText := fun p hp => hg p (by simp [hp])
    have hread := isReadable_fragment (isKept hr hcuts hgroup hend)
      (images ps ++ Pattern.ending strict).length
    have hs := map_slot_origins hgroup (images ps ++ Pattern.ending strict).length
    rw [slots, origins, isReadable_append, ← hs]
    rcases ih with ⟨hi, hlt⟩ | ⟨hi, he⟩
    · refine .inl ⟨fun h => hi h.2, ?_⟩
      simp only [List.length_append, List.length_map]
      omega
    · exact .inr ⟨⟨hread, hi⟩, by rw [he, List.map_append]⟩

end Path

namespace Pattern

lemma ofText_eq_ok {spec : PathSpec} {caseSensitive strict : Bool} {text : List Char} {p : Pattern}
    (h : ofText spec caseSensitive strict text = .ok p) :
    ∃ e, ofPieces (Fragment.scanner.pieces text) = .ok (e, p.slots) ∧
      p.source.toList = '^' :: (e ++ ending strict) ∧
      Regex.compile { ignoreCase := !caseSensitive } p.source = .ok p.matcher := by
  unfold ofText at h
  cases hp : ofPieces (Fragment.scanner.pieces text) with
  | error e =>
    rw [hp] at h
    cases h
  | ok r =>
    rw [hp] at h
    simp only [bind, Except.bind] at h
    split at h
    · next matcher hm =>
      cases h
      exact ⟨r.1, rfl, by simp [ending], hm⟩
    · cases h

lemma ofText_of_compile {spec : PathSpec} {caseSensitive strict : Bool} {text : List Char}
    {p : Pattern} (hs : spec.text? = some text) (h : compile caseSensitive strict spec = .ok p) :
    ofText spec caseSensitive strict text = .ok p := by
  cases spec with
  | text | alternatives =>
    cases hs
    exact h
  | regex | other => cases hs

/-- The descriptors of an accepted path are aligned with its capture groups exactly if the name of
each group that is written in the path outside its parameters is one that the scanner reads. -/
theorem aligned_iff {spec : PathSpec} {caseSensitive strict : Bool} {text : List Char} {p : Pattern}
    (hs : spec.text? = some text) (hp : isPlain text)
    (h : compile caseSensitive strict spec = .ok p) :
    p.Aligned (groups strict text) ↔ IsReadable (groups strict text) := by
  obtain ⟨e, hpieces, hsource, hcompile⟩ := ofText_eq_ok (ofText_of_compile hs h)
  have hcuts : Fragment.scanner.Cuts none text (Fragment.scanner.pieces text) :=
    Fragment.scanner_isFaithful.cuts none text
  obtain ⟨hg, rfl, hslots⟩ := ofPieces_eq_ok hcuts hp hpieces
  obtain ⟨htame, hagree⟩ := captures_images hcuts hp hg strict
  have hi : isInert '^' := by decide
  have htame' : IsTame p.source.toList := by
    rw [hsource, isTame_inert hi]
    exact htame
  have hopen : openings false p.source.toList =
      captures (parens (images (Fragment.scanner.pieces text) ++ ending strict)) := by
    have := parensOf_located hcompile rfl htame'
    rw [openings, this, hsource, parens_inert hi]
  obtain ⟨hcount, hnames⟩ := compile_groups hcompile
  rw [hopen] at hcount hnames
  rw [hagree.length_eq] at hcount
  rcases slots_eq_iff hcuts hp hg strict with ⟨hi, hlt⟩ | ⟨hi, he⟩
  · refine iff_of_false (fun ha => ?_) hi
    have := ha.count
    rw [hslots, hcount] at this
    omega
  · refine iff_of_true ⟨?_, ?_, by rw [hslots, he, groups], fun i k name hk => ?_⟩ hi
    · rw [hslots, he, hcount, List.length_map]
    · rw [hopen]
      exact map_fst_of_agrees hagree
    · rw [hnames]
      exact name_of_agrees hagree hk

theorem aligned_numbered : ∃ p, compile false false (.text "/:id(\\d+)?/(?P<n>x)*") = .ok p ∧
    p.Aligned (groups false "/:id(\\d+)?/(?P<n>x)*".toList) := by
  have hok : (compile false false (.text "/:id(\\d+)?/(?P<n>x)*")).toOption.isSome := by
    decide +kernel
  cases h : compile false false (.text "/:id(\\d+)?/(?P<n>x)*") with
  | error e =>
    rw [h] at hok
    cases hok
  | ok p => exact ⟨p, rfl, (aligned_iff rfl (by decide) h).mpr (by decide +kernel)⟩

example : groups false "/:id(\\d+)?/(?P<n>x)*".toList =
    [(23, .capture ⟨true, false, ['i', 'd'], some "(\\d+)".toList, true, false⟩),
      (15, .written (some "n")), (7, .wildcard)] := by decide +kernel
example : ¬ IsReadable (groups false "/(?P<a\u0301>x)".toList) := by decide +kernel

end Pattern

end ActionRouting
