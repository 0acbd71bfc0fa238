import ActionRouting.Proofs.Path.Atoms

/-! The two scans of a path. To be compiled it is cut into all its fragments, to be filled it is
searched for parameters alone. Both find the same parameters at the same places unless an escape
hides one: no other fragment has a character in which a parameter begins. -/
namespace ActionRouting

namespace Text.Scanner

variable {τ : Type} {sc : Scanner τ}

/-- The tokens of a text, each with the positions where it begins and where it ends. -/
def spans (sc : Scanner τ) (cs : List Char) : List (Nat × Nat × τ) :=
  (sc.tokens cs).map fun t => (t.1, t.1 + (sc.write t.2).length, t.2)

/-- The tokens of a text stand in it at their positions. -/
lemma Cuts.prefix_of_mem_located {before : Option Char} {cs : List Char} {ps : List (Piece τ)}
    (h : sc.Cuts before cs ps) (u : List Char) {t : Nat × τ}
    (ht : t ∈ sc.located u.length ps) : sc.write t.2 <+: (u ++ cs).drop t.1 := by
  induction h generalizing u with
  | nil => cases ht
  | @plain _ c _ _ _ _ ih =>
    rw [located] at ht
    have := ih (u ++ [c]) (by simpa using ht)
    simpa using this
  | @token _ f _ _ _ _ ih =>
    rw [located] at ht
    rcases List.mem_cons.mp ht with rfl | ht
    · simp
    · have := ih (u ++ sc.write f) (by simpa using ht)
      simpa using this

/-- The text of a token is what stands in its span. -/
theorem IsFaithful.text_of_mem_spans (h : sc.IsFaithful) {cs : List Char} {s : Nat × Nat × τ}
    (hs : s ∈ sc.spans cs) : (cs.drop s.1).take (s.2.1 - s.1) = sc.write s.2.2 := by
  obtain ⟨t, ht, rfl⟩ := List.mem_map.mp hs
  have hp : sc.write t.2 <+: cs.drop t.1 := (h.cuts none cs).prefix_of_mem_located [] ht
  rw [Nat.add_sub_cancel_left]
  exact (List.prefix_iff_eq_take.mp hp).symm

end Text.Scanner

namespace Path

open Text Text.Scanner

def Fragment.param? : Fragment → Option Param
  | .param p => some p
  | _ => none

lemma Fragment.param?_eq_some {f : Fragment} {p : Param} (h : f.param? = some p) :
    f = .param p := by
  cases f <;> cases h
  rfl

def Fragment.isEscape : Fragment → Bool
  | .escape _ => true
  | _ => false

/-- A piece of the first scan as the second one sees it: what is no parameter is text. -/
def seenPlain : Piece Fragment → List (Piece Param)
  | .plain c => [.plain c]
  | .token (.param p) => [.token p]
  | .token f => f.write.map .plain

lemma seenPlain_of_none {f : Fragment} (h : f.param? = none) :
    seenPlain (.token f) = f.write.map .plain := by
  cases f <;> first | rfl | cases h

def beginsNone (c : Char) : Bool := c != '/' && c != '.' && c != ':'

lemma read?_of_beginsNone {before : Option Char} {c : Char} {cs : List Char}
    (h : beginsNone c) : Param.read? before (c :: cs) = none := by
  simp only [beginsNone, Bool.and_eq_true, bne_iff_ne] at h
  exact Param.read?_of_ne h.1.1 h.1.2 h.2

lemma beginsNone_of_isWord {c : Char} (h : isWord c) : beginsNone c := by
  simp [beginsNone, isWord_ne h (d := '/') (by decide), isWord_ne h (d := '.') (by decide),
    isWord_ne h (d := ':') (by decide)]

/-- Where no fragment begins, no parameter does. -/
lemma param_read?_of_none {before : Option Char} {cs : List Char}
    (h : Fragment.read? before cs = none) : Param.read? before cs = none := by
  cases hp : Param.read? before cs with
  | none => rfl
  | some p => simp [Fragment.read?, hp] at h

/-- Where a fragment of another kind begins, no parameter does. -/
lemma param_read?_of_other {before : Option Char} {cs : List Char} {f : Fragment}
    (h : Fragment.read? before cs = some f) (hf : f.param? = none) :
    Param.read? before cs = none := by
  cases hp : Param.read? before cs with
  | none => rfl
  | some p =>
    simp only [Fragment.read?, hp, Option.some.injEq] at h
    subst h
    cases hf

/-- Behind the first character of a fragment that is neither a parameter nor an escape, no parameter
begins before it ends. -/
lemma beginsNone_of_read? {before : Option Char} {cs : List Char} {f : Fragment}
    (h : Fragment.read? before cs = some f) (hp : f.param? = none) (he : f.isEscape = false) :
    f.write.tail.all beginsNone := by
  cases f with
  | param p => cases hp
  | escape c => cases he
  | dot => rfl
  | wildcard => rfl
  | group name =>
    cases name with
    | none => rfl
    | some name =>
      -- A name is read as a row of word characters, between characters that are fixed.
      have hname : name.all isWord := by
        have hread : ∃ rest, Fragment.readGroup rest = some (.group (some name)) := by
          unfold Fragment.read? at h
          split at h
          · cases h
          · split at h
            · split at h <;> cases h
            · exact ⟨_, h⟩
            all_goals cases h
        obtain ⟨rest, hread⟩ := hread
        rcases Fragment.readGroup_eq_some hread with ⟨he, -⟩ | ⟨other, _, he, hother, -⟩
        · cases he
        · cases he
          exact (Bool.and_eq_true _ _ ▸ hother : _ ∧ _).2
      have hrow : name.all beginsNone := by
        rw [List.all_eq_true] at hname ⊢
        exact fun c hc => beginsNone_of_isWord (hname c hc)
      simp [Fragment.write, hrow, show beginsNone '?' from rfl, show beginsNone 'P' from rfl,
        show beginsNone '<' from rfl, show beginsNone '>' from rfl]

lemma cuts_of_beginsNone {u cs : List Char} {ps : List (Piece Param)} {before : Option Char}
    (hu : u.all beginsNone) (h : Param.scanner.Cuts (u.getLast?.or before) cs ps) :
    Param.scanner.Cuts before (u ++ cs) (u.map .plain ++ ps) := by
  induction u generalizing before with
  | nil => exact h
  | cons c u ih =>
    rw [List.all_cons, Bool.and_eq_true] at hu
    refine .plain (read?_of_beginsNone hu.1) (ih hu.2 ?_)
    cases u with
    | nil => exact h
    | cons d u => simpa [List.getLast?_cons] using h

/-- A path that is cut into fragments without an escape is cut into parameters at the same
places. -/
theorem cuts_seenPlain {before : Option Char} {cs : List Char} {ps : List (Piece Fragment)}
    (h : Fragment.scanner.Cuts before cs ps)
    (he : ∀ f, .token f ∈ ps → f.isEscape = false) :
    Param.scanner.Cuts before cs (ps.flatMap seenPlain) := by
  induction h with
  | nil => exact .nil _
  | plain hr _ ih =>
    have hrest := ih fun f hf => he f (List.mem_cons_of_mem _ hf)
    exact .plain (param_read?_of_none hr) hrest
  | @token before f cs ps hr _ ih =>
    have hrest := ih fun f hf => he f (List.mem_cons_of_mem _ hf)
    cases hp : f.param? with
    | some p =>
      obtain rfl := Fragment.param?_eq_some hp
      exact .token (Fragment.param_of_read? hr) hrest
    | none =>
      obtain ⟨c, u, hw⟩ := List.exists_cons_of_ne_nil (Fragment.write_ne_nil f)
      have hu : u.all beginsNone := by
        have := beginsNone_of_read? hr hp (he f List.mem_cons_self)
        rwa [hw] at this
      have hfirst := param_read?_of_other hr hp
      rw [List.flatMap_cons, seenPlain_of_none hp]
      change Fragment.scanner.write f = c :: u at hw
      change Param.scanner.Cuts before _ ((Fragment.scanner.write f).map .plain ++ _)
      rw [hw] at hfirst hrest ⊢
      refine .plain hfirst (cuts_of_beginsNone hu ?_)
      cases u with
      | nil => exact hrest
      | cons d u => simpa [List.getLast?_cons] using hrest

/-- The parameters among the fragments keep their places. -/
lemma located_seenPlain (start : Nat) (ps : List (Piece Fragment)) :
    Param.scanner.located start (ps.flatMap seenPlain) =
      (Fragment.scanner.located start ps).filterMap fun t => t.2.param?.map (t.1, ·) := by
  induction ps generalizing start with
  | nil => rfl
  | cons p ps ih =>
    cases p with
    | plain c => exact ih (start + 1)
    | token f =>
      rw [List.flatMap_cons, located]
      cases hp : f.param? with
      | some p =>
        obtain rfl := Fragment.param?_eq_some hp
        exact congrArg ((start, p) :: ·) (ih _)
      | none =>
        rw [seenPlain_of_none hp, located_plains, ih, List.filterMap_cons_none (by simp [hp])]
        rfl

/-- A text without a backslash has no escape. -/
lemma isEscape_of_not_mem {before : Option Char} {cs : List Char} {ps : List (Piece Fragment)}
    (h : Fragment.scanner.Cuts before cs ps) (hcs : '\\' ∉ cs) {f : Fragment}
    (hf : .token f ∈ ps) : f.isEscape = false := by
  induction h with
  | nil => cases hf
  | plain _ _ ih =>
    rcases List.mem_cons.mp hf with he | hf
    · cases he
    · exact ih (fun hm => hcs (List.mem_cons_of_mem _ hm)) hf
  | token _ _ ih =>
    rcases List.mem_cons.mp hf with he | hf
    · cases he
      cases f with
      | escape c => exact absurd (List.mem_append_left _ List.mem_cons_self) hcs
      | _ => rfl
    · exact ih (fun hm => hcs (List.mem_append_right _ hm)) hf

/-- What a piece of the first scan leaves in the text when parameters are replaced. -/
def filledBy (image : Param → List Char) : Piece Fragment → List Char
  | .token (.param p) => image p
  | p => Fragment.scanner.text p

/-- To replace the parameters that the second scan finds is to replace those of the first. -/
lemma replace_of_pieces {cs : List Char} {image : Param → List Char}
    (h : Param.scanner.pieces cs = (Fragment.scanner.pieces cs).flatMap seenPlain) :
    Param.scanner.replace image cs = (Fragment.scanner.pieces cs).flatMap (filledBy image) := by
  rw [Scanner.replace, h, List.flatMap_assoc]
  refine List.flatMap_congr fun p _ => ?_
  cases p with
  | plain c => rfl
  | token f =>
    cases hp : f.param? with
    | some p =>
      obtain rfl := Fragment.param?_eq_some hp
      exact List.append_nil _
    | none =>
      have hkept : filledBy image (.token f) = f.write := by
        cases f <;> first | rfl | cases hp
      rw [seenPlain_of_none hp, hkept, List.flatMap_map]
      exact List.flatMap_singleton' _

/-- In a path without a backslash, the scan for parameters alone finds just the parameters among the
fragments: in the same order, from where each begins to where it ends, and with the same slash, dot,
name, capture and marks. Each stands in the path as it is written, and a path is filled by replacing
the parameters among its fragments. -/
theorem spans_param_eq {cs : List Char} (h : '\\' ∉ cs) :
    Param.scanner.spans cs =
      (Fragment.scanner.spans cs).filterMap (fun s => s.2.2.param?.map (s.1, s.2.1, ·)) ∧
    (∀ s ∈ Param.scanner.spans cs, (cs.drop s.1).take (s.2.1 - s.1) = s.2.2.write) ∧
    ∀ image, Param.scanner.replace image cs =
      (Fragment.scanner.pieces cs).flatMap (filledBy image) := by
  have hcuts := Fragment.scanner_isFaithful.cuts none cs
  have hseen := cuts_seenPlain hcuts fun f => isEscape_of_not_mem hcuts h
  have hpieces : Param.scanner.pieces cs = (Fragment.scanner.pieces cs).flatMap seenPlain :=
    (Param.scanner_isFaithful.eq_piecesFrom hseen).symm
  refine ⟨?_, fun s hs => Param.scanner_isFaithful.text_of_mem_spans hs,
    fun image => replace_of_pieces hpieces⟩
  rw [spans, spans, tokens, tokens, hpieces, located_seenPlain, List.map_filterMap,
    List.filterMap_map]
  refine List.filterMap_congr fun t _ => ?_
  cases hp : t.2.param? with
  | none => simp [hp]
  | some p =>
    simp [Fragment.param?_eq_some hp, Fragment.param?, Fragment.scanner, Param.scanner,
      Fragment.write]

/-- A group with a name, a dot and a star of its own come before two parameters. -/
theorem spans_param_eq_groups :
    '\\' ∉ "/(?P<a>x).*:id(b:c)?*/.:f".toList ∧
    Param.scanner.spans "/(?P<a>x).*:id(b:c)?*/.:f".toList =
      [(11, 21, ⟨false, false, ['i', 'd'], some "(b:c)".toList, true, true⟩),
        (21, 25, ⟨true, true, ['f'], none, false, false⟩)] ∧
    (Fragment.scanner.spans "/(?P<a>x).*:id(b:c)?*/.:f".toList).filterMap
        (fun s => s.2.2.param?.map (s.1, s.2.1, ·)) =
      Param.scanner.spans "/(?P<a>x).*:id(b:c)?*/.:f".toList ∧
    (Fragment.scanner.spans "/(?P<a>x).*:id(b:c)?*/.:f".toList).length = 5 := by
  have hplain : '\\' ∉ "/(?P<a>x).*:id(b:c)?*/.:f".toList := by decide
  exact ⟨hplain, by decide, (spans_param_eq hplain).1.symm, by decide⟩

/-- An escape hides a parameter from the first scan alone. -/
example : Param.scanner.tokens "\\:a".toList = [(1, ⟨false, false, ['a'], none, false, false⟩)] ∧
    Fragment.scanner.tokens "\\:a".toList = [(0, .escape ':')] := by decide

end Path

end ActionRouting
