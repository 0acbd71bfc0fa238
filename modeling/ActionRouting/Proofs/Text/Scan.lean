import Mathlib.Tactic.Lemma
import ActionRouting.Text.Scan

/-! How a scanner cuts a text: each token stands in it as it is written, and a character that begins
no token stands alone. -/
namespace ActionRouting.Text.Scanner

variable {τ : Type} {sc : Scanner τ}

/-- A text, after a character, is cut into pieces. -/
inductive Cuts (sc : Scanner τ) : Option Char → List Char → List (Piece τ) → Prop
  | nil (before : Option Char) : Cuts sc before [] []
  | plain {before : Option Char} {c : Char} {cs : List Char} {ps : List (Piece τ)} :
      sc.read? before (c :: cs) = none → Cuts sc (some c) cs ps →
      Cuts sc before (c :: cs) (.plain c :: ps)
  | token {before : Option Char} {t : τ} {cs : List Char} {ps : List (Piece τ)} :
      sc.read? before (sc.write t ++ cs) = some t → Cuts sc (sc.write t).getLast? cs ps →
      Cuts sc before (sc.write t ++ cs) (.token t :: ps)

/-- A token is read where it is written. -/
structure IsFaithful (sc : Scanner τ) : Prop where
  write_ne_nil : ∀ t, sc.write t ≠ []
  eq_write_append : ∀ {before cs t}, sc.read? before cs = some t → ∃ rest, cs = sc.write t ++ rest

lemma piecesFrom_length (u : List Char) (before : Option Char) (cs : List Char) :
    sc.piecesFrom u.length before (u ++ cs) = sc.piecesFrom 0 (u.getLast?.or before) cs := by
  induction u generalizing before with
  | nil => rfl
  | cons c u ih =>
    rw [List.length_cons, List.cons_append, piecesFrom, ih]
    cases u with
    | nil => rfl
    | cons d u => simp [List.getLast?_cons]

lemma piecesFrom_write {before : Option Char} {t : τ} {cs : List Char} (hw : sc.write t ≠ [])
    (hr : sc.read? before (sc.write t ++ cs) = some t) :
    sc.piecesFrom 0 before (sc.write t ++ cs) =
      .token t :: sc.piecesFrom 0 (sc.write t).getLast? cs := by
  obtain ⟨d, u, hd⟩ := List.exists_cons_of_ne_nil hw
  rw [hd, List.cons_append] at hr ⊢
  simp only [piecesFrom, hr, hd, List.length_cons, Nat.add_sub_cancel, piecesFrom_length]
  cases u <;> simp [List.getLast?_cons]

/-- There is one way to cut a text. -/
theorem IsFaithful.eq_piecesFrom (h : sc.IsFaithful) {before : Option Char} {cs : List Char}
    {ps : List (Piece τ)} (hc : sc.Cuts before cs ps) : ps = sc.piecesFrom 0 before cs := by
  induction hc with
  | nil => rfl
  | plain hr _ ih =>
    rw [piecesFrom, hr, ← ih]
  | token hr _ ih => rw [piecesFrom_write (h.write_ne_nil _) hr, ← ih]

/-- Every text is cut into its pieces. -/
theorem IsFaithful.cuts (h : sc.IsFaithful) (before : Option Char) (cs : List Char) :
    sc.Cuts before cs (sc.piecesFrom 0 before cs) := by
  induction hn : cs.length using Nat.strongRecOn generalizing before cs with
  | _ n ih =>
    subst hn
    cases cs with
    | nil => exact .nil before
    | cons c cs =>
      cases hr : sc.read? before (c :: cs) with
      | none =>
        rw [piecesFrom, hr]
        exact .plain hr (ih _ (Nat.lt_succ_self _) _ _ rfl)
      | some t =>
        obtain ⟨rest, he⟩ := h.eq_write_append hr
        have hw := h.write_ne_nil t
        have hlt : rest.length < (c :: cs).length := by
          have := List.length_pos_iff.mpr hw
          rw [he, List.length_append]
          omega
        rw [he] at hr ⊢
        rw [piecesFrom_write hw hr]
        exact .token hr (ih _ hlt _ _ rfl)

lemma IsFaithful.eq_nil (hs : sc.IsFaithful) {before : Option Char} {ps : List (Piece τ)}
    (h : sc.Cuts before [] ps) : ps = [] := by
  generalize hx : ([] : List Char) = x at h
  cases h with
  | nil => rfl
  | plain => cases hx
  | token => exact absurd (List.append_eq_nil_iff.mp hx.symm).1 (hs.write_ne_nil _)

/-- A character that begins no token stands alone. -/
lemma Cuts.of_none {before : Option Char} {c : Char} {cs : List Char} {ps : List (Piece τ)}
    (h : sc.Cuts before (c :: cs) ps) (hn : sc.read? before (c :: cs) = none) :
    ∃ qs, ps = .plain c :: qs ∧ sc.Cuts (some c) cs qs := by
  generalize hx : c :: cs = x at h hn
  cases h with
  | nil => cases hx
  | plain _ hcs =>
    cases hx
    exact ⟨_, rfl, hcs⟩
  | token hr _ =>
    rw [hn] at hr
    cases hr

lemma located_plains (u : List Char) (ps : List (Piece τ)) (start : Nat) :
    sc.located start (u.map .plain ++ ps) = sc.located (start + u.length) ps := by
  induction u generalizing start with
  | nil => rfl
  | cons c u ih =>
    rw [List.map_cons, List.cons_append, located, ih, List.length_cons, Nat.add_right_comm,
      Nat.add_assoc]

section Render

variable {σ : Type}

/-- What pieces become when each token is replaced in turn, by a rule that carries a state along. -/
def render (image : σ → τ → σ × List Char) : σ → List (Piece τ) → List Char
  | _, [] => []
  | s, .plain c :: ps => c :: render image s ps
  | s, .token t :: ps => (image s t).2 ++ render image (image s t).1 ps

lemma foldl_render {image : σ → τ → σ × List Char}
    {f : σ × List (List Char) → Piece τ → σ × List (List Char)}
    (hplain : ∀ done c, f done (.plain c) = (done.1, [c] :: done.2))
    (htoken : ∀ done t, f done (.token t) = ((image done.1 t).1, (image done.1 t).2 :: done.2))
    (ps : List (Piece τ)) (done : σ × List (List Char)) :
    (ps.foldl f done).2.reverse.flatten = done.2.reverse.flatten ++ render image done.1 ps := by
  induction ps generalizing done with
  | nil => rw [List.foldl_nil, render, List.append_nil]
  | cons p ps ih =>
    rw [List.foldl_cons, ih]
    cases p with
    | plain c => simp [hplain, render]
    | token t => simp [htoken, render]

/-- A text with its tokens replaced is made of its pieces, from left to right. -/
theorem replaceWith_eq_render (image : σ → τ → σ × List Char) (s : σ) (cs : List Char) :
    sc.replaceWith image s cs = render image s (sc.pieces cs) :=
  foldl_render (fun _ _ => rfl) (fun _ _ => rfl) _ _

lemma render_plains (image : σ → τ → σ × List Char) (s : σ) (u : List Char)
    (ps : List (Piece τ)) : render image s (u.map .plain ++ ps) = u ++ render image s ps := by
  induction u with
  | nil => rfl
  | cons c u ih => exact congrArg (c :: ·) ih

/-- A rule that writes every token back, from the states it comes through, changes nothing. -/
lemma Cuts.render_eq {image : σ → τ → σ × List Char} {P : σ → Prop}
    (hi : ∀ s, P s → ∀ t, P (image s t).1 ∧ (image s t).2 = sc.write t) {before : Option Char}
    {cs : List Char} {ps : List (Piece τ)} (h : sc.Cuts before cs ps) {s : σ} (hs : P s) :
    render image s ps = cs := by
  induction h generalizing s with
  | nil => rfl
  | @plain _ c _ _ _ _ ih => exact congrArg (c :: ·) (ih hs)
  | @token _ t _ _ _ _ ih =>
    obtain ⟨hnext, hw⟩ := hi s hs t
    rw [render, hw, ih hnext]

/-- Two rules that come through the same states, and whose images have the same characters of a
kind in the same order, give texts that have. -/
lemma filter_render {image₁ image₂ : σ → τ → σ × List Char} {kind : Char → Bool}
    (h : ∀ s t, (image₁ s t).1 = (image₂ s t).1 ∧
      (image₁ s t).2.filter kind = (image₂ s t).2.filter kind) (s : σ) (ps : List (Piece τ)) :
    (render image₁ s ps).filter kind = (render image₂ s ps).filter kind := by
  induction ps generalizing s with
  | nil => rfl
  | cons p ps ih =>
    cases p with
    | plain c =>
      rw [render, render, List.filter_cons, List.filter_cons, ih]
    | token t =>
      obtain ⟨hstate, hout⟩ := h s t
      rw [render, render, List.filter_append, List.filter_append, hout, hstate, ih]

end Render

end ActionRouting.Text.Scanner
