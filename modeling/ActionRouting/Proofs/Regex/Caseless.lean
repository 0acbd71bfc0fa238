import ActionRouting.Proofs.Regex.Anchored
import ActionRouting.Proofs.Regex.Local
import ActionRouting.Proofs.Text.LetterCase

/-! Matching without regard to case. An expression whose sets ignore case matches a text in lower
case as it matches the text itself: step by step the two searches have the same ways to go on. -/
namespace ActionRouting.Regex

open Text

lemma Category.contains_toLower (k : Category) (ascii : Bool) (c : Char) :
    k.contains ascii c.toLower = k.contains ascii c := by
  cases k <;> cases ascii <;> exact apply_toLower (by decide +kernel) c

lemma Member.contains_toLower (m : Member) (ascii : Bool) (c : Char) :
    m.contains .unicode ascii c.toLower = m.contains .unicode ascii c := by
  have hvariants : Casing.variants .unicode c.toLower = Casing.variants .unicode c :=
    caseVariants_toLower c
  have hnormal : Casing.normal .unicode c.toLower = Casing.normal .unicode c := lowerChar_toLower c
  cases m with
  | char code => rw [contains, contains, hvariants, hnormal]
  | range lo hi => rw [contains, contains, hvariants, hnormal]
  | category kind negated => rw [contains, contains, kind.contains_toLower]

/-- A set that ignores case has a character if and only if it has its lower case. -/
lemma CharSet.contains_toLower {set : CharSet} (hs : set.casing = .unicode) (c : Char) :
    set.contains c.toLower = set.contains c := by
  have hvariants : Casing.variants .unicode c.toLower = Casing.variants .unicode c :=
    caseVariants_toLower c
  have hmembers : (set.members.any fun m => m.contains .unicode set.ascii c.toLower) =
      set.members.any fun m => m.contains .unicode set.ascii c := by
    simp only [Member.contains_toLower]
  rw [contains, contains, hs]
  split <;> simp_all

namespace Cursor

def lowered (s : Cursor) : Cursor :=
  { s with before := s.before.map Char.toLower, after := s.after.map Char.toLower }

lemma length_lowered (s : Cursor) : s.lowered.length = s.length := by simp [lowered, length]

lemma fuel_lowered (lo : Nat) (s : Cursor) : Course.fuel lo s.lowered = Course.fuel lo s := by
  rw [Course.fuel, Course.fuel, length_lowered]

end Cursor

lemma toLower_eq_newline {c : Char} : c.toLower = '\n' ↔ c = '\n' := by
  have : (c.toLower == '\n') = (c == '\n') :=
    apply_toLower (f := fun c => c == '\n') (by decide +kernel) c
  rw [← beq_iff_eq, this, beq_iff_eq]

/-- A condition on a position does not depend on case. -/
lemma Anchor.holds_lowered (a : Anchor) (s : Cursor) : a.holds s.lowered = a.holds s := by
  have hword (ascii : Bool) (cs : List Char) :
      (cs.map Char.toLower).head?.any (Category.word.contains ascii) =
        cs.head?.any (Category.word.contains ascii) := by
    cases cs with
    | nil => rfl
    | cons c cs => exact Category.word.contains_toLower ascii c
  have hline (cs : List Char) :
      ((cs.map Char.toLower).head? == some '\n') = (cs.head? == some '\n') := by
    cases cs with
    | nil => rfl
    | cons c cs =>
      rw [Bool.eq_iff_iff]
      simp [toLower_eq_newline]
  have hfinal (cs : List Char) : (cs.map Char.toLower == ['\n']) = (cs == ['\n']) := by
    rcases cs with _ | ⟨c, _ | ⟨d, cs⟩⟩
    · rfl
    · rw [Bool.eq_iff_iff]
      simp [toLower_eq_newline]
    · rw [Bool.eq_iff_iff]
      simp
  cases a <;> simp only [holds, Cursor.lowered, List.isEmpty_map, hword, hline, hfinal]

namespace Node

/-- All sets of the expression ignore case, and it has no look at more than a position. -/
def ignoresCase : Node → Bool
  | .empty | .anchor _ => true
  | .chars s => s.casing == .unicode
  | .seq a b | .alt a b => a.ignoresCase && b.ignoresCase
  | .group _ a | .loop _ _ _ a => a.ignoresCase
  | _ => false

lemma ignoresCase_ofParts (ns : List Node) : (ofParts ns).ignoresCase = ns.all ignoresCase :=
  ofParts_eq_all rfl (fun _ _ => rfl) ns

lemma ignoresCase_of_isUniform {n : Node} (h : n.isUniform .unicode) : n.ignoresCase := by
  induction n with
  | empty => rfl
  | chars s => exact h
  | seq a b iha ihb | alt a b iha ihb =>
    obtain ⟨ha, hb⟩ := Bool.and_eq_true_iff.mp h
    exact Bool.and_eq_true_iff.mpr ⟨iha ha, ihb hb⟩
  | group index a ih | loop eager lo hi a ih => exact ih h
  | _ => cases h

lemma flatMap_lowered {body rest : Cursor → List Cursor}
    (hb : ∀ s, body s.lowered = (body s).map Cursor.lowered)
    (hr : ∀ s, rest s.lowered = (rest s).map Cursor.lowered) (s : Cursor) :
    (body s.lowered).flatMap rest = ((body s).flatMap rest).map Cursor.lowered := by
  rw [hb, List.flatMap_map, List.map_flatMap]
  exact congrArg (List.flatMap · (body s)) (funext hr)

/-- A repetition of a part that ignores case takes the same steps in lower case. -/
lemma loopResults_lowered {body : Cursor → List Cursor} {eager : Bool}
    (hb : ∀ s, body s.lowered = (body s).map Cursor.lowered) (fuel least : Nat)
    (greatest last : Option Nat) (s : Cursor) :
    loopResults body eager fuel least greatest last s.lowered =
      (loopResults body eager fuel least greatest last s).map Cursor.lowered := by
  induction fuel generalizing least greatest last s with
  | zero => rfl
  | succ fuel ih =>
    cases least with
    | succ least =>
      rw [loopResults, loopResults]
      exact flatMap_lowered hb (ih least _ last) s
    | zero =>
      have hmore := flatMap_lowered hb (ih 0 (greatest.map (· - 1)) (some s.pos)) s
      rw [loopResults, loopResults]
      have hpos : s.lowered.pos = s.pos := rfl
      rw [hpos, hmore]
      cases eager <;> by_cases h : greatest = some 0 ∨ last = some s.pos <;> simp [h]

/-- What an expression that ignores case takes of a text in lower case is what it takes of the
text. -/
theorem results_lowered {n : Node} (hn : n.ignoresCase) (s : Cursor) :
    n.results s.lowered = (n.results s).map Cursor.lowered := by
  induction n generalizing s with
  | empty => rfl
  | chars set =>
    have hset : set.casing = .unicode := beq_iff_eq.mp hn
    cases ha : s.after with
    | nil =>
      have ha' : s.lowered.after = [] := by rw [Cursor.lowered, ha, List.map_nil]
      rw [results_chars_nil set s ha, results_chars_nil set s.lowered ha', List.map_nil]
    | cons c rest =>
      have ha' : s.lowered.after = c.toLower :: rest.map Char.toLower := by
        rw [Cursor.lowered, ha, List.map_cons]
      rw [results_chars set s c rest ha, results_chars set s.lowered _ _ ha',
        CharSet.contains_toLower hset]
      split <;> rfl
  | seq a b iha ihb =>
    obtain ⟨ha, hb⟩ := Bool.and_eq_true_iff.mp hn
    exact flatMap_lowered (iha ha) (ihb hb) s
  | alt a b iha ihb =>
    obtain ⟨ha, hb⟩ := Bool.and_eq_true_iff.mp hn
    rw [results, results, iha ha, ihb hb, List.map_append]
  | group index a ih =>
    have henter : s.lowered.enter index = (s.enter index).lowered := rfl
    rw [results, results, henter, ih hn, List.map_map, List.map_map]
    rfl
  | loop eager lo hi a ih =>
    rw [results, results, Cursor.fuel_lowered]
    exact loopResults_lowered (ih hn) _ lo hi none s
  | anchor a =>
    rw [results, results, a.holds_lowered]
    split <;> rfl
  | _ => cases hn

end Node

variable {r : Regex}

lemma positions_lowered (groups : List Mark) (pos : Nat) (before cs : List Char) :
    Cursor.positions groups pos (before.map Char.toLower) (cs.map Char.toLower) =
      (Cursor.positions groups pos before cs).map Cursor.lowered := by
  induction cs generalizing pos before with
  | nil => rfl
  | cons c cs ih =>
    rw [List.map_cons, Cursor.positions, Cursor.positions, List.map_cons, ← ih, List.map_cons]
    rfl

/-- An expression that ignores case is found in a text in lower case where it is found in the text,
with its capture groups at the same places. -/
theorem search_lowered (hr : r.IsDirect) (hn : r.root.ignoresCase) (text : List Char) :
    r.search (text.map Char.toLower) = r.search text := by
  have hmatch (s : Cursor) : r.matchAt s.lowered = r.matchAt s := by
    have hadmits (s : Cursor) : r.admits s := by
      simp [admits, hr.first, hr.room, hr.shortest]
    rw [matchAt, matchAt, if_pos (hadmits _), if_pos (hadmits _), preferred_of_byTrial hr.byTrial,
      preferred_of_byTrial hr.byTrial, Node.results_lowered hn, List.head?_map, Option.map_map]
    rfl
  have hpositions := positions_lowered (List.replicate r.groupCount {}) 0 [] text
  rw [List.map_nil] at hpositions
  rw [search_eq, search_eq, hpositions, List.findSome?_map]
  exact congrArg (List.findSome? · _) (funext hmatch)

end ActionRouting.Regex
