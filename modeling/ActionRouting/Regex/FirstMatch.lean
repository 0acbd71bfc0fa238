import ActionRouting.Regex.Matcher

/-! The match that a search finds is the first of all matches. `Node.run_eq` says so at one
position, `search_eq` for a whole text. -/
namespace ActionRouting.Regex.Node

/-- The ways to take one character of a set. -/
theorem results_chars (set : CharSet) (s : Cursor) (c : Char) (rest : List Char)
    (h : s.after = c :: rest) :
    (Node.chars set).results s =
      if set.contains c then [{ s with pos := s.pos + 1, before := c :: s.before, after := rest }]
      else [] := by
  simp [results, Cursor.next?, h]

/-- At the end of a text no character is left to take. -/
theorem results_chars_nil (set : CharSet) (s : Cursor) (h : s.after = []) :
    (Node.chars set).results s = [] := by
  simp [results, Cursor.next?, h]

/-- A set matches in one way at the most. -/
theorem length_results_chars_le (set : CharSet) (s : Cursor) :
    ((Node.chars set).results s).length ≤ 1 := by
  rw [results]
  split
  · split <;> simp
  · simp

/-- Positions reached by a set are put before those already reached. -/
theorem charRun_append (set : CharSet) (cs : List Char) (greatest : Option Nat) (s : Cursor)
    (reached : List Cursor) :
    Cursor.charRun set cs greatest s reached = Cursor.charRun set cs greatest s [] ++ reached := by
  induction cs generalizing greatest s reached with
  | nil => rfl
  | cons c rest ih =>
    simp only [Cursor.charRun]
    split
    · rfl
    · split
      · rw [ih, ih _ _ [_], List.append_assoc]
        rfl
      · rfl

/-- A repetition of a set without a least number. -/
theorem loopResults_chars_zero (set : CharSet) (fuel : Nat) (greatest last : Option Nat)
    (s : Cursor) (hf : s.after.length < fuel) (hl : ∀ p, last = some p → p < s.pos) :
    loopResults (Node.chars set).results true fuel 0 greatest last s =
      Cursor.charRun set s.after greatest s [] ++ [s] := by
  generalize hcs : s.after = cs
  rw [hcs] at hf
  induction cs generalizing fuel greatest last s with
  | nil =>
    obtain ⟨fuel, rfl⟩ := Nat.exists_eq_succ_of_ne_zero (Nat.ne_of_gt hf)
    rw [loopResults, results_chars_nil set s hcs]
    simp [Cursor.charRun]
  | cons c rest ih =>
    obtain ⟨fuel, rfl⟩ := Nat.exists_eq_succ_of_ne_zero (Nat.ne_of_gt (Nat.zero_lt_of_lt hf))
    have hs : last ≠ some s.pos := fun h => Nat.lt_irrefl _ (hl _ h)
    rw [loopResults, results_chars set s c rest hcs, Cursor.charRun]
    by_cases hg : greatest = some 0
    · simp [hg]
    · by_cases hc : set.contains c = true
      · simp only [hg, hs, hc, or_self, if_false, if_true, List.flatMap_cons, List.flatMap_nil,
          List.append_nil]
        rw [ih fuel _ (some s.pos) _ (fun p h => Option.some.inj h ▸ Nat.lt_succ_self s.pos)
          (Nat.lt_of_succ_lt_succ hf) rfl, charRun_append set rest _ _ [_]]
      · simp [hg, hs, hc]

/-- One repetition less, in the bound and in the least number. -/
theorem pred_map_max (greatest : Option Nat) (least : Nat) :
    (greatest.map (max (least + 1))).map (· - 1) = (greatest.map (· - 1)).map (max least) := by
  cases greatest with
  | none => rfl
  | some n => simp; omega

/-- A repetition of a set, as many as possible first. -/
theorem loopResults_chars (set : CharSet) (fuel least : Nat) (greatest last : Option Nat)
    (s : Cursor) (hf : least + s.after.length < fuel) (hl : ∀ p, last = some p → p < s.pos) :
    loopResults (Node.chars set).results true fuel least greatest last s =
      (Cursor.charRun set s.after (greatest.map (max least)) s [s]).take
        ((Cursor.charRun set s.after (greatest.map (max least)) s [s]).length - least) := by
  rw [charRun_append]
  induction least generalizing fuel greatest last s with
  | zero =>
    rw [loopResults_chars_zero set fuel greatest last s (by omega) hl]
    have : greatest.map (max 0) = greatest := by cases greatest <;> simp
    rw [this, Nat.sub_zero, List.take_length]
  | succ least ih =>
    obtain ⟨fuel, rfl⟩ := Nat.exists_eq_succ_of_ne_zero (n := fuel) (by omega)
    rw [loopResults]
    cases hcs : s.after with
    | nil => simp [results_chars_nil set s hcs, Cursor.charRun]
    | cons c rest =>
      have hg : greatest.map (max (least + 1)) ≠ some 0 := by
        cases greatest with
        | none => simp
        | some n => simp
      rw [results_chars set s c rest hcs, Cursor.charRun, if_neg hg, pred_map_max]
      by_cases hc : set.contains c = true
      · simp only [hc, if_true, List.flatMap_cons, List.flatMap_nil, List.append_nil]
        rw [ih fuel _ last _ (by simp_all; omega)
          (fun p h => Nat.lt_succ_of_lt (hl p h)), charRun_append set rest _ _ [_]]
        simp only [List.length_append, List.length_singleton, Nat.add_sub_add_right]
        exact (List.take_append_of_le_length (by simp)).symm
      · simp [hc]

/-- Where a part matches in one way at the most, preferring few repetitions reverses the order. -/
theorem loopResults_false {body : Cursor → List Cursor} (h : ∀ s, (body s).length ≤ 1)
    (fuel least : Nat) (greatest last : Option Nat) (s : Cursor) :
    loopResults body false fuel least greatest last s =
      (loopResults body true fuel least greatest last s).reverse := by
  have step (f g : Cursor → List Cursor) (e : ∀ a, f a = (g a).reverse) (s : Cursor) :
      (body s).flatMap f = ((body s).flatMap g).reverse := by
    match hb : body s, h s with
    | [], _ => rfl
    | [a], _ => simp [e]
  induction fuel generalizing least greatest last s with
  | zero => rfl
  | succ fuel ih =>
    cases least with
    | succ least => exact step _ _ (fun a => ih _ _ _ a) s
    | zero =>
      rw [loopResults, loopResults]
      by_cases hm : greatest = some 0 ∨ last = some s.pos
      · simp [hm]
      · simp [hm, step _ _ (fun a => ih _ _ _ a) s]

/-- A search through lists joined is a search through each in turn. -/
theorem findSome?_flatMap {α β γ : Type} (f : α → List β) (k : β → Option γ) (l : List α) :
    (l.flatMap f).findSome? k = l.findSome? fun a => (f a).findSome? k := by
  induction l with
  | nil => rfl
  | cons a l ih =>
    rw [List.flatMap_cons, List.findSome?_append, ih, List.findSome?_cons]
    cases (f a).findSome? k <;> rfl

theorem findSome?_take_one {α β : Type} (k : α → Option β) (l : List α) :
    (l.take 1).findSome? k = l.head?.bind k := by
  cases l with
  | nil => rfl
  | cons a l =>
    simp [List.findSome?_cons]
    cases k a <;> rfl

theorem findSome?_some {α : Type} (l : List α) : l.findSome? some = l.head? := by
  cases l <;> rfl

/-- The first way to repeat a part that a continuation accepts is the first accepted one among
all. -/
theorem loopRun_eq {body : Cursor → (Cursor → Option Cursor) → Option Cursor}
    {results : Cursor → List Cursor} (h : ∀ s k, body s k = (results s).findSome? k)
    (eager : Bool) (k : Cursor → Option Cursor) (fuel least : Nat) (greatest last : Option Nat)
    (s : Cursor) :
    loopRun body eager k fuel least greatest last s =
      (loopResults results eager fuel least greatest last s).findSome? k := by
  induction fuel generalizing least greatest last s with
  | zero => rfl
  | succ fuel ih =>
    cases least with
    | succ least =>
      rw [loopRun, loopResults, h, findSome?_flatMap]
      exact congrArg (List.findSome? · _) (funext fun a => ih _ _ _ _)
    | zero =>
      have more : (if greatest = some 0 ∨ last = some s.pos then none
          else body s (loopRun body eager k fuel 0 (greatest.map (· - 1)) (some s.pos))) =
          (if greatest = some 0 ∨ last = some s.pos then []
          else (results s).flatMap
            (loopResults results eager fuel 0 (greatest.map (· - 1)) (some s.pos))).findSome?
            k := by
        split
        · rfl
        · rw [h, findSome?_flatMap]
          exact congrArg (List.findSome? · _) (funext fun a => ih _ _ _ _)
      rw [loopRun, loopResults]
      simp only [more]
      cases eager with
      | true => simp [List.findSome?_append]
      | false =>
        simp [List.findSome?_cons]
        cases k s <;> rfl

/-- An expression that is a set matches as that set does. -/
theorem results_of_chars? {n : Node} {set : CharSet} (h : n.chars? = some set) (s : Cursor) :
    n.results s = (Node.chars set).results s := by
  induction n with
  | chars t => simp_all [chars?]
  | seq a b iha ihb =>
    cases b with
    | empty =>
      rw [chars?] at h
      have ih := iha h
      rw [results.eq_3, ih]
      simp [results]
    | _ => simp [chars?] at h
  | _ => simp [chars?] at h

/-- A repetition of a set is a repetition like any other. -/
theorem charLoop_eq {n : Node} {set : CharSet} (h : n.chars? = some set) (lo : Nat)
    (hi : Option Nat) (s : Cursor) :
    charLoop set lo hi s = loopResults n.results true (Course.fuel lo s) lo hi none s := by
  rw [funext (results_of_chars? h), charLoop,
    loopResults_chars set _ lo hi none s (by simp [Course.fuel, Cursor.length]; omega) (by simp)]

/-- The first way to match that a continuation accepts is the first accepted one among all. -/
theorem run_eq (n : Node) (s : Cursor) (k : Cursor → Option Cursor) :
    n.run s k = (n.results s).findSome? k := by
  induction n generalizing s k with
  | empty => simp [run, results]
  | chars set =>
    rw [run, results]
    split
    · split <;> simp
    · rfl
  | seq a b iha ihb =>
    rw [run, results, iha, findSome?_flatMap]
    exact congrArg (List.findSome? · _) (funext fun s' => ihb _ _)
  | alt a b iha ihb => simp [run, results, iha, ihb, List.findSome?_append]
  | group index a ih => simp [run, results, ih, List.findSome?_map, Function.comp_def]
  | loop eager lo hi a ih =>
    cases eager with
    | true =>
      rw [run, results]
      split
      · next set h => rw [charLoop_eq h]
      · exact loopRun_eq (fun s k => ih s k) ..
    | false =>
      rw [run, results]
      split
      · next set h =>
        rw [charLoop_eq h, ← loopResults_false]
        intro s
        rw [results_of_chars? h]
        exact length_results_chars_le set s
      · exact loopRun_eq (fun s k => ih s k) ..
  | possessive inLoop lo hi a =>
    rw [run, results]
    cases possess? inLoop lo hi a s <;> simp
  | anchor condition => rw [run, results]; split <;> simp
  | again index casing =>
    rw [run, results]
    split
    · cases Cursor.takeText casing _ s <;> simp
    · rfl
  | look back negated a ih =>
    have here (s : Cursor) : a.run s some = (a.results s).head? :=
      (ih s some).trans (findSome?_some _)
    cases back <;> simp only [run, results, here] <;> split <;> cases negated <;> simp
  | atomic a ih => rw [run, results, ih, findSome?_some, findSome?_take_one]
  | ifGroup index yes no ihYes ihNo => rw [run, results]; split <;> simp [ihYes, ihNo]

end ActionRouting.Regex.Node

namespace ActionRouting.Regex

def Cursor.positions (groups : List Mark) :
    Nat → List Char → List Char → List Cursor
  | pos, before, [] => [⟨pos, before, [], groups⟩]
  | pos, before, c :: rest =>
    ⟨pos, before, c :: rest, groups⟩ :: Cursor.positions groups (pos + 1) (c :: before) rest

/-- The preferred way to match at a position. -/
def preferred (r : Regex) (s : Cursor) : Option Cursor :=
  if r.byTrial then r.trial s else (r.root.results s).head?

theorem endFrom_eq (r : Regex) (s : Cursor) : r.endFrom s = r.preferred s := by
  rw [endFrom, preferred, Node.run_eq, Node.findSome?_some]

/-- The preferred match that begins at a position, if the expression may begin there. -/
def matchAt (r : Regex) (s : Cursor) : Option Match :=
  if r.admits s then (r.preferred s).map fun e => ⟨⟨s.pos, e.pos⟩, e.groups.map Mark.span?⟩
  else none

theorem matchFrom_eq (r : Regex) (s : Cursor) : r.matchFrom s = r.matchAt s := by
  rw [matchFrom, matchAt, endFrom_eq]

theorem searchFrom_eq (r : Regex) (groups : List Mark) (pos : Nat) (before cs : List Char) :
    r.searchFrom groups pos before cs =
      (Cursor.positions groups pos before cs).findSome? r.matchAt := by
  induction cs generalizing pos before with
  | nil =>
    rw [searchFrom, matchFrom_eq, Cursor.positions, List.findSome?_singleton]
  | cons c rest ih =>
    rw [searchFrom, matchFrom_eq, ih, Cursor.positions, List.findSome?_cons]
    cases r.matchAt _ <;> rfl

/-- A search finds the preferred match at the first position that has one. -/
theorem search_eq (r : Regex) (text : List Char) :
    r.search text =
      (Cursor.positions (List.replicate r.groupCount {}) 0 [] text).findSome? r.matchAt :=
  searchFrom_eq r ..

end ActionRouting.Regex
