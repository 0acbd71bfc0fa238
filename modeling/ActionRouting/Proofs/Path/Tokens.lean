import ActionRouting.Path.Fragment
import ActionRouting.Path.Template
import ActionRouting.Proofs.Text.Scan

/-! The tokens of a path stand in it as they are written. -/
namespace ActionRouting.Path

namespace Param

/-- A token as one is read: it has a name, and its capture ends at its first closing parenthesis. -/
structure IsRead (p : Param) : Prop where
  name_ne_nil : p.name ≠ []
  name_isWord : p.name.all Text.isWord
  capture_eq : ∀ own, p.capture = some own → ∃ body, own = '(' :: body ++ [')'] ∧ ')' ∉ body

lemma eat_eq (c : Char) (cs : List Char) :
    cs = (if (eat c cs).1 then [c] else []) ++ (eat c cs).2 := by
  cases cs with
  | nil => rfl
  | cons d cs =>
    by_cases h : d = c <;> simp [eat, h]

lemma capture?_eq_some {cs own : List Char} (h : capture? cs = some own) :
    ∃ body rest, own = '(' :: body ++ [')'] ∧ ')' ∉ body ∧ cs = own ++ rest := by
  unfold capture? at h
  split at h
  · next cs =>
    split at h
    · next rest hd =>
      cases h
      refine ⟨_, rest, rfl, ?_, ?_⟩
      · intro hm
        have := List.all_eq_true.mp List.all_takeWhile _ hm
        simp at this
      · have := List.takeWhile_append_dropWhile (p := fun c => c != ')' && c != '\n') (l := cs)
        rw [hd] at this
        simpa using this.symm
    · cases h
  · cases h

lemma capture?_append_drop (cs : List Char) :
    (capture? cs).getD [] ++ cs.drop ((capture? cs).getD []).length = cs := by
  cases hc : capture? cs with
  | none => rfl
  | some own =>
    obtain ⟨_, rest, -, -, rfl⟩ := capture?_eq_some hc
    simp

lemma readTail_eq_some {slash dot : Bool} {cs : List Char} {p : Param}
    (h : readTail slash dot cs = some p) : p.IsRead ∧ p.slash = slash ∧ p.dot = dot ∧
      ∃ rest, cs = p.name ++ p.capture.getD [] ++ (if p.optional then ['?'] else []) ++
        (if p.star then ['*'] else []) ++ rest := by
  unfold readTail at h
  dsimp only at h
  split at h
  · cases h
  · next hn =>
    cases h
    refine ⟨⟨by simpa using hn, List.all_takeWhile, ?_⟩, rfl, rfl, ?_⟩
    · intro own ho
      obtain ⟨body, rest, he, hb, -⟩ := capture?_eq_some ho
      exact ⟨body, he, hb⟩
    · generalize hr : cs.dropWhile Text.isWord = rest
      generalize hd : rest.drop ((capture? rest).getD []).length = ds
      refine ⟨(eat '*' (eat '?' ds).2).2, ?_⟩
      calc cs = cs.takeWhile Text.isWord ++ ((capture? rest).getD [] ++ ds) := by
            rw [← hd, capture?_append_drop, ← hr, List.takeWhile_append_dropWhile]
        _ = cs.takeWhile Text.isWord ++ ((capture? rest).getD [] ++
              ((if (eat '?' ds).1 then ['?'] else []) ++
                ((if (eat '*' (eat '?' ds).2).1 then ['*'] else []) ++
                  (eat '*' (eat '?' ds).2).2))) := by rw [← eat_eq, ← eat_eq]
        _ = _ := by simp

lemma read?_eq_some {before : Option Char} {cs : List Char} {p : Param}
    (h : read? before cs = some p) : p.IsRead ∧ ∃ rest, cs = p.write ++ rest := by
  unfold read? at h
  dsimp only at h
  split at h
  · next ds hd =>
    split at h
    · cases h
    · obtain ⟨hp, hs, hdot, rest, hr⟩ := readTail_eq_some h
      refine ⟨hp, rest, ?_⟩
      rw [eat_eq '/' cs, eat_eq '.' (eat '/' cs).2, hd, hr, write, hs, hdot]
      simp
  · cases h

lemma scanner_isFaithful : scanner.IsFaithful where
  write_ne_nil p := by simp [scanner, write]
  eq_write_append h := (read?_eq_some h).2

end Param

namespace Fragment

def isName (name : List Char) : Bool := !name.isEmpty && name.all Text.isWord

lemma readGroup_eq_some {cs : List Char} {f : Fragment} (h : readGroup cs = some f) :
    (f = .group none ∧ cs.head? ≠ some '?') ∨ ∃ name rest, f = .group (some name) ∧
      isName name ∧ cs = ['?', 'P', '<'] ++ name ++ '>' :: rest := by
  unfold readGroup at h
  split at h
  · next cs =>
    dsimp only at h
    split at h
    · next rest hd =>
      split at h
      · cases h
      · next hne =>
        cases h
        refine .inr ⟨_, rest, rfl, by simpa [isName, List.all_takeWhile] using hne, ?_⟩
        have := List.takeWhile_append_dropWhile (p := Text.isWord) (l := cs)
        rw [hd] at this
        simp [this]
    · cases h
  · cases h
  · next h1 h2 =>
    cases h
    refine .inl ⟨rfl, ?_⟩
    intro he
    cases cs with
    | nil => cases he
    | cons c cs =>
      cases he
      exact h2 _ rfl

lemma readGroup_named {name : List Char} (hn : isName name) (rest : List Char) :
    readGroup ('?' :: 'P' :: '<' :: (name ++ '>' :: rest)) = some (.group (some name)) := by
  simp only [isName, Bool.and_eq_true, Bool.not_eq_true', List.all_eq_true] at hn
  have htake : (name ++ '>' :: rest).takeWhile Text.isWord = name := by
    rw [List.takeWhile_append_of_pos hn.2, List.takeWhile_cons_of_neg (by decide), List.append_nil]
  have hdrop : (name ++ '>' :: rest).dropWhile Text.isWord = '>' :: rest := by
    rw [List.dropWhile_append_of_pos hn.2, List.dropWhile_cons_of_neg (by decide)]
  simp [readGroup, htake, hdrop, hn.1]

lemma read?_eq_some {before : Option Char} {cs : List Char} {f : Fragment}
    (h : read? before cs = some f) : ∃ rest, cs = f.write ++ rest := by
  unfold read? at h
  split at h
  · next p hp =>
    cases h
    exact (Param.read?_eq_some hp).2
  · split at h
    · next c rest _ =>
      split at h
      · cases h
      · cases h
        exact ⟨rest, rfl⟩
    · next cs _ =>
      rcases readGroup_eq_some h with ⟨rfl, -⟩ | ⟨name, rest, rfl, -, rfl⟩
      · exact ⟨cs, rfl⟩
      · exact ⟨rest, by simp [write]⟩
    · cases h
      exact ⟨_, rfl⟩
    · cases h
      exact ⟨_, rfl⟩
    · cases h

lemma param_of_read? {before : Option Char} {cs : List Char} {p : Param}
    (h : read? before cs = some (.param p)) : Param.read? before cs = some p := by
  unfold read? at h
  split at h
  · next q hq =>
    cases h
    exact hq
  · split at h
    · split at h <;> cases h
    · rcases readGroup_eq_some h with ⟨he, -⟩ | ⟨_, _, he, -⟩ <;> cases he
    · cases h
    · cases h
    · cases h

lemma write_ne_nil (f : Fragment) : f.write ≠ [] := by
  rcases f with p | c | (_ | name) | _ | _ <;> simp [write, Param.write]

lemma scanner_isFaithful : scanner.IsFaithful where
  write_ne_nil := write_ne_nil
  eq_write_append := read?_eq_some

end Fragment

lemma trailingStar_isFaithful : trailingStar.IsFaithful where
  write_ne_nil _ := List.cons_ne_nil _ _
  eq_write_append {_ cs _} h := by
    simp only [trailingStar] at h
    split at h
    · next rest => exact ⟨rest, rfl⟩
    · cases h

end ActionRouting.Path
