import ActionRouting.Proofs.Path.Compiled
import ActionRouting.Proofs.Path.Readings
import ActionRouting.Proofs.Regex.Results

/-! Matching a path of segments: whatever its parts take is a reading of the path, and of all ways
to match its own text the first takes each value as a whole. -/
namespace ActionRouting.Path

open Text Regex

variable {casing : Casing} {value : List Char → List Char} {ps : List (Piece Param)}
  {s s' : Cursor} {rest : List Char}

lemma contains_char {n : Nat} {d : Char} :
    (CharSet.mk false [.char n] casing false).contains d = true ↔ n ∈ casing.variants d := by
  simp [CharSet.contains]

lemma contains_member (casing : Casing) {c : Char} (hc : c ∈ ['\n', '#', '.', '/']) (d : Char) :
    (Member.char c.toNat).contains casing false d = true ↔ d = c := by
  have hlow : ¬ planeEnd < c.toNat := by
    have : ∀ c ∈ ['\n', '#', '.', '/'], ¬ planeEnd < c.toNat := by simp [planeEnd]
    exact this c hc
  rw [Member.contains, if_neg hlow, List.contains_iff_mem]
  constructor
  · exact casing.eq_of_mem_variants hc
  · rintro rfl
    exact casing.mem_variants d

/-- The capture of a parameter takes what is no slash, and after a dot no dot. -/
lemma contains_barred {p : Param} {d : Char} :
    (CharSet.mk true p.barred casing false).contains d = true ↔
      d ≠ '/' ∧ (p.dot = true → d ≠ '.') := by
  have hs : '/'.toNat ∈ casing.variants d ↔ d = '/' :=
    ⟨casing.eq_of_mem_variants (by decide), fun h => h ▸ casing.mem_variants d⟩
  unfold Param.barred
  cases p.dot with
  | false =>
    have hc : (CharSet.mk true [.char 47] casing false).contains d =
        !(casing.variants d).contains 47 := by simp [CharSet.contains]
    simp only [Bool.false_eq_true, if_false, hc, Bool.not_eq_true', false_implies, and_true]
    rw [← Bool.not_eq_true, List.contains_iff_mem]
    exact not_congr hs
  | true =>
    have hm := contains_member casing (c := '/') (by decide) d
    have hd := contains_member casing (c := '.') (by decide) d
    have hc : (CharSet.mk true [.char 47, .char 46] casing false).contains d =
        !((Member.char 47).contains casing false d ||
          (Member.char 46).contains casing false d) := by
      simp [CharSet.contains]
    simp only [if_true, hc, Bool.not_eq_true', Bool.or_eq_false_iff, forall_const]
    rw [← Bool.not_eq_true, ← Bool.not_eq_true]
    exact and_congr (not_congr hm) (not_congr hd)

lemma mem_results_lead {b : Bool} {c : Char} (hc : c ∈ ['\n', '#', '.', '/'])
    (h : s' ∈ (Node.ofParts (if b then [charNode casing c] else [])).results s) :
    s.after = (if b then [c] else []) ++ s'.after := by
  cases b with
  | false =>
    simp only [Bool.false_eq_true, if_false, Node.ofParts, List.foldr_nil, Node.results,
      List.mem_singleton] at h
    rw [h]
    rfl
  | true =>
    rw [if_pos rfl, Node.results_ofParts_singleton] at h
    obtain ⟨d, hd, ha, -⟩ := Node.mem_results_chars h
    rw [casing.eq_of_mem_variants hc (contains_char.mp hd)] at ha
    exact ha

/-- What a parameter takes that is there. -/
lemma mem_results_present {p : Param} {index : Nat}
    (h : s' ∈ (Node.ofParts (p.presentNodes casing index)).results s) :
    ∃ x, x ≠ [] ∧ '/' ∉ x ∧ (p.dot → '.' ∉ x) ∧ s.after = p.lead ++ (x ++ s'.after) := by
  rw [Param.presentNodes, Node.results_ofParts_append] at h
  obtain ⟨s₁, h₁, h⟩ := List.mem_flatMap.mp h
  rw [Node.results_ofParts_append] at h
  obtain ⟨s₂, h₂, h⟩ := List.mem_flatMap.mp h
  rw [Node.results_ofParts_singleton, Param.captureNode, Node.results,
    Node.results_ofParts_singleton] at h
  obtain ⟨s₃, h₃, rfl⟩ := List.mem_map.mp h
  obtain ⟨x, hne, hx, ha, -⟩ := Node.mem_results_lazy h₃
  have hx := fun d hd => contains_barred.mp (hx d hd)
  refine ⟨x, hne, fun hm => (hx _ hm).1 rfl, fun hd hm => (hx _ hm).2 hd rfl, ?_⟩
  have hs₁ := mem_results_lead (by decide) h₁
  have hs₂ := mem_results_lead (by decide) h₂
  have ha : s₂.after = x ++ (s₃.leave index).after := ha
  rw [hs₁, hs₂, ha, Param.lead, List.append_assoc]

lemma mem_results_param {p : Param} {index : Nat}
    (h : s' ∈ (Node.ofParts (p.nodes casing index)).results s) :
    (∃ x, x ≠ [] ∧ '/' ∉ x ∧ (p.dot → '.' ∉ x) ∧ s.after = p.lead ++ (x ++ s'.after)) ∨
      p.optional ∧ s' = s := by
  unfold Param.nodes at h
  split at h
  · next ho =>
    rw [Node.results_ofParts_singleton, Node.results_optional, List.mem_append,
      List.mem_singleton] at h
    rcases h with h | h
    · exact .inl (mem_results_present h)
    · exact .inr ⟨ho, h⟩
  · exact .inl (mem_results_present h)

/-- What the parts of a path take is a reading of the path. -/
theorem takes_of_mem_results {count : Nat}
    (h : s' ∈ (Node.ofParts (nodesOf casing count ps)).results s) :
    ∃ w, s.after = w ++ s'.after ∧ Takes casing ps w := by
  induction ps generalizing s count with
  | nil =>
    obtain rfl : s' = s := by simpa [nodesOf, Node.ofParts, Node.results] using h
    exact ⟨[], rfl, .nil⟩
  | cons q ps ih =>
    cases q with
    | plain c =>
      rw [nodesOf, Node.results_ofParts_cons] at h
      obtain ⟨t, ht, h⟩ := List.mem_flatMap.mp h
      obtain ⟨d, hd, ha, -⟩ := Node.mem_results_chars ht
      obtain ⟨w, hw, hps⟩ := ih h
      exact ⟨d :: w, by rw [ha, hw, List.cons_append], .plain (contains_char.mp hd) hps⟩
    | token p =>
      rw [nodesOf, Node.results_ofParts_append] at h
      obtain ⟨t, ht, h⟩ := List.mem_flatMap.mp h
      obtain ⟨w, hw, hps⟩ := ih h
      rcases mem_results_param ht with ⟨x, hne, hs, hd, ha⟩ | ⟨ho, rfl⟩
      · exact ⟨p.lead ++ (x ++ w), by rw [ha, hw]; simp, .token hne hs hd hps⟩
      · exact ⟨w, hw, .missing ho hps⟩

/-- The position after a parameter that takes its value. -/
def bound (value : List Char → List Char) (p : Param) (index : Nat) (s : Cursor) : Cursor :=
  (((s.past p.lead).enter index).past (value p.name)).leave index

/-- The position after parts whose parameters take their values; their capture groups have numbers
above `count`. -/
def after (value : List Char → List Char) : Nat → List (Piece Param) → Cursor → Cursor
  | _, [], s => s
  | count, .plain c :: ps, s => after value count ps (s.past [c])
  | count, .token p :: ps, s => after value (count + 1) ps (bound value p (count + 1) s)

lemma results_lead {b : Bool} {c : Char} (hs : s.after = (if b then [c] else []) ++ rest) :
    (Node.ofParts (if b then [charNode casing c] else [])).results s =
      [s.past (if b then [c] else [])] := by
  cases b with
  | false => rfl
  | true =>
    rw [if_pos rfl, Node.results_ofParts_singleton]
    exact Node.results_chars_of_mem hs (contains_char.mpr (casing.mem_variants c))

lemma nodesOf_plains (count : Nat) (u : List Char) (ps : List (Piece Param)) :
    nodesOf casing count (u.map .plain ++ ps) =
      u.map (charNode casing) ++ nodesOf casing count ps := by
  induction u with
  | nil => rfl
  | cons c u ih => exact congrArg _ ih

/-- Characters take themselves. -/
lemma results_plains {u rest : List Char} {s : Cursor} (ns : List Node)
    (hs : s.after = u ++ rest) : (Node.ofParts (u.map (charNode casing) ++ ns)).results s =
      (Node.ofParts ns).results (s.past u) := by
  induction u generalizing s with
  | nil => rfl
  | cons c u ih =>
    have hc : (CharSet.mk false [.char c.toNat] casing false).contains c :=
      contains_char.mpr (casing.mem_variants c)
    rw [List.map_cons, List.cons_append, Node.results_ofParts_cons, charNode,
      Node.results_chars_of_mem hs hc, List.flatMap_cons, List.flatMap_nil, List.append_nil,
      ih (Cursor.past_after (u := [c]) hs), Cursor.past_past]
    rfl

/-- A parameter meets every shorter value before the one that it is to take. -/
lemma results_present (casing : Casing) (index : Nat) {p : Param} (hp : p.Fits value)
    (hs : s.after = p.lead ++ (value p.name ++ rest)) :
    ∃ earlier later, (Node.ofParts (p.presentNodes casing index)).results s =
        earlier ++ bound value p index s :: later ∧
      ∀ s' ∈ earlier, ∃ x y, value p.name = x ++ y ∧ y ≠ [] ∧ s'.after = y ++ rest := by
  have hlead : s.after = (if p.slash then ['/'] else []) ++
      ((if p.dot then ['.'] else []) ++ (value p.name ++ rest)) := by
    rw [hs, Param.lead, List.append_assoc]
  have hdot : (s.past (if p.slash then ['/'] else [])).after =
      (if p.dot then ['.'] else []) ++ (value p.name ++ rest) := Cursor.past_after hlead
  have hvalue : ((s.past p.lead).enter index).after = value p.name ++ rest :=
    Cursor.past_after hs
  have hset (c : Char) (hc : c ∈ value p.name) :
      (CharSet.mk true p.barred casing false).contains c :=
    contains_barred.mpr ⟨fun h => hp.no_slash (h ▸ hc), fun hd h => hp.no_dot hd (h ▸ hc)⟩
  obtain ⟨earlier, later, hl, hx⟩ := Node.results_lazy hvalue hset hp.ne_nil
  refine ⟨earlier.map (·.leave index), later.map (·.leave index), ?_, ?_⟩
  · rw [Param.presentNodes, Node.results_ofParts_append, results_lead hlead, List.flatMap_cons,
      List.flatMap_nil, List.append_nil, Node.results_ofParts_append, results_lead hdot,
      List.flatMap_cons, List.flatMap_nil, List.append_nil, Node.results_ofParts_singleton,
      Cursor.past_past, Param.captureNode, Node.results, Node.results_ofParts_singleton,
      ← Param.lead, hl, List.map_append, List.map_cons, bound]
  · intro s' hm
    obtain ⟨t, ht, rfl⟩ := List.mem_map.mp hm
    obtain ⟨x, y, hv, hy, rfl⟩ := hx t ht
    refine ⟨x, y, hv, hy, Cursor.past_after ?_⟩
    rw [hvalue, hv, List.append_assoc]

lemma results_param (casing : Casing) (index : Nat) {p : Param} (hp : p.Fits value)
    (hs : s.after = p.lead ++ (value p.name ++ rest)) :
    ∃ earlier later, (Node.ofParts (p.nodes casing index)).results s =
        earlier ++ bound value p index s :: later ∧
      ∀ s' ∈ earlier, ∃ x y, value p.name = x ++ y ∧ y ≠ [] ∧ s'.after = y ++ rest := by
  obtain ⟨earlier, later, h, hx⟩ := results_present casing index hp hs
  unfold Param.nodes
  split
  · refine ⟨earlier, later ++ [s], ?_, hx⟩
    rw [Node.results_ofParts_singleton, Node.results_optional, h, List.append_assoc,
      List.cons_append]
  · exact ⟨earlier, later, h, hx⟩

lemma after_bound (index : Nat) {p : Param} (hs : s.after = p.lead ++ (value p.name ++ rest)) :
    (bound value p index s).after = rest :=
  Cursor.past_after (s := (s.past p.lead).enter index) (Cursor.past_after hs)

/-- Of all ways to match the parts of a tight path on its own text, the first that can be continued
takes each value as a whole. -/
theorem results_tight {f : Cursor → List Cursor} (count : Nat)
    (hf : ∀ s', f s' ≠ [] → IsEnding s'.after) (ht : IsTight casing value ps)
    (hs : s.after = filled value ps) :
    ∃ others, ((Node.ofParts (nodesOf casing count ps)).results s).flatMap f =
      f (after value count ps s) ++ others := by
  induction ps generalizing s count with
  | nil => exact ⟨[], by simp [nodesOf, Node.ofParts, Node.results, after]⟩
  | cons q ps ih =>
    cases q with
    | plain c =>
      have hc := contains_char.mpr (casing.mem_variants c)
      obtain ⟨others, ho⟩ := ih count ht (Cursor.past_after (u := [c]) hs)
      refine ⟨others, ?_⟩
      rw [nodesOf, Node.results_ofParts_cons, charNode, Node.results_chars_of_mem hs hc,
        List.flatMap_cons, List.flatMap_nil, List.append_nil, ho, after]
    | token p =>
      obtain ⟨hp, hsettles, ht⟩ := ht
      rw [filled_token, List.append_assoc] at hs
      obtain ⟨earlier, later, hr, hx⟩ := results_param casing (count + 1) hp hs
      obtain ⟨others, ho⟩ := ih (count + 1) ht (after_bound (count + 1) hs)
      have hnone : earlier.flatMap (fun s' =>
          ((Node.ofParts (nodesOf casing (count + 1) ps)).results s').flatMap f) = [] := by
        rw [List.flatMap_eq_nil_iff]
        intro s₁ h₁
        rw [List.flatMap_eq_nil_iff]
        intro s₂ h₂
        by_contra hne
        obtain ⟨x, y, hv, hy, ha⟩ := hx s₁ h₁
        obtain ⟨w, hw, htakes⟩ := takes_of_mem_results h₂
        refine hy (hsettles y w s₂.after ?_ ?_ (hf s₂ hne) htakes (by rw [← hw, ha]))
        · exact fun hm => hp.no_slash (hv ▸ List.mem_append_right _ hm)
        · exact fun hm => hp.no_line (hv ▸ List.mem_append_right _ hm)
      refine ⟨others ++ later.flatMap (fun s' =>
        ((Node.ofParts (nodesOf casing (count + 1) ps)).results s').flatMap f), ?_⟩
      rw [nodesOf, Node.results_ofParts_append, List.flatMap_assoc, hr, List.flatMap_append, hnone,
        List.flatMap_cons, ho, after, List.nil_append, List.append_assoc]

lemma results_endNodes (strict : Bool) (hs : s.after = []) :
    (Node.ofParts (endNodes casing strict)).results s = [s] := by
  have hend : Anchor.holds s .finalLineEnd = true := by simp [Anchor.holds, hs]
  have hanchor : (Node.ofParts [.anchor .finalLineEnd]).results s = [s] := by
    rw [Node.results_ofParts_singleton, Node.results, if_pos hend]
  cases strict with
  | true => exact hanchor
  | false =>
    have hslash : (Node.loop true 0 (some 1) (charNode casing '/')).results s = [s] := by
      rw [Node.results_optional, charNode, Node.results_chars_nil _ s hs, List.nil_append]
    change (Node.ofParts (_ :: [.anchor .finalLineEnd])).results s = [s]
    rw [Node.results_ofParts_cons, hslash, List.flatMap_cons, hanchor]
    rfl

/-- What may be left of a path under a setting of slashes: the end of a line, and a slash before it
unless slashes are strict. -/
def IsEndingOf (strict : Bool) (cs : List Char) : Prop :=
  cs ∈ [[], ['\n']] ∨ strict = false ∧ cs ∈ [['/'], ['/', '\n']]

/-- A path ends where the text does, but for a slash and the end of a line. -/
lemma isEndingOf_of_results {strict : Bool}
    (h : (Node.ofParts (endNodes casing strict)).results s ≠ []) : IsEndingOf strict s.after := by
  have hanchor (t : Cursor) (ht : (Node.ofParts [.anchor .finalLineEnd]).results t ≠ []) :
      t.after = [] ∨ t.after = ['\n'] := by
    rw [Node.results_ofParts_singleton, Node.results] at ht
    split at ht
    · next hh => simpa [Anchor.holds] using hh
    · exact absurd rfl ht
  have hshort (t : Cursor) (ht : t.after = [] ∨ t.after = ['\n']) : IsEndingOf strict t.after := by
    rcases ht with ht | ht <;> simp [IsEndingOf, ht]
  cases strict with
  | true => exact hshort s (hanchor s h)
  | false =>
    obtain ⟨e, he⟩ := List.exists_mem_of_ne_nil _ h
    change e ∈ (Node.ofParts (_ :: [.anchor .finalLineEnd])).results s at he
    rw [Node.results_ofParts_cons, Node.results_optional] at he
    obtain ⟨t, ht, he⟩ := List.mem_flatMap.mp he
    have hta := hanchor t (List.ne_nil_of_mem he)
    rcases List.mem_append.mp ht with ht | ht
    · obtain ⟨d, hd, ha, -⟩ := Node.mem_results_chars ht
      rw [casing.eq_of_mem_variants (by decide) (contains_char.mp hd)] at ha
      rcases hta with hta | hta <;> simp [IsEndingOf, ha, hta]
    · rw [List.mem_singleton.mp ht] at hta
      exact hshort s hta

lemma IsEndingOf.isEnding {strict : Bool} {cs : List Char} (h : IsEndingOf strict cs) :
    IsEnding cs := by
  simp only [IsEndingOf, List.mem_cons, List.not_mem_nil, or_false] at h
  rcases h with (rfl | rfl) | ⟨-, rfl | rfl⟩ <;> simp [IsEnding]

/-- Nothing is left of a path where a segment goes on to the end of the text. -/
lemma IsEndingOf.eq_nil {strict : Bool} {ending : List Char} (h : IsEndingOf strict ending)
    (hs : '/' ∉ ending) (hl : '\n' ∉ ending) : ending = [] := by
  simp only [IsEndingOf, List.mem_cons, List.not_mem_nil, or_false] at h
  rcases h with (rfl | rfl) | ⟨-, rfl | rfl⟩ <;> simp_all

def start (count : Nat) (path : List Char) : Cursor := ⟨0, [], path, List.replicate count {}⟩

/-- A path matches a text from its beginning as its parts do, up to its end. -/
theorem search_matcherOf {b strict : Bool} {text path : List Char} {nodes : List Node}
    {count : Nat} {e : Cursor} {others : List Cursor}
    (h : ((Node.ofParts nodes).results (start count path)).flatMap
      (Node.ofParts (endNodes (casingOf b) strict)).results = e :: others) :
    (matcherOf b strict text nodes count).search path =
      some ⟨⟨0, e.pos⟩, e.groups.map Mark.span?⟩ := by
  have hroot : (matcherOf b strict text nodes count).root.run (start count path) some = some e := by
    have hanchor : (Node.anchor .textStart).results (start count path) = [start count path] := rfl
    rw [Node.run_eq, matcherOf, Node.results_ofParts_cons, hanchor, List.flatMap_cons,
      List.flatMap_nil, List.append_nil, Node.results_ofParts_append, h]
    rfl
  have hmatch : (matcherOf b strict text nodes count).matchFrom (start count path) =
      some ⟨⟨0, e.pos⟩, e.groups.map Mark.span?⟩ := by
    have hend : (matcherOf b strict text nodes count).endFrom (start count path) = some e := hroot
    rw [Regex.matchFrom, hend]
    rfl
  rw [Regex.search]
  cases path with
  | nil => exact hmatch
  | cons c path =>
    have hmatch : (matcherOf b strict text nodes count).matchFrom ⟨0, [], c :: path,
        List.replicate (matcherOf b strict text nodes count).groupCount {}⟩ = _ := hmatch
    rw [Regex.searchFrom, hmatch]

/-- Where the capture groups of some parts begin and end, the first part being at `pos`. -/
def marksOf (value : List Char → List Char) : Nat → List (Piece Param) → List Mark
  | _, [] => []
  | pos, .plain _ :: ps => marksOf value (pos + 1) ps
  | pos, .token p :: ps =>
    ⟨some (pos + p.lead.length), some (pos + p.lead.length + (value p.name).length)⟩ ::
      marksOf value (pos + p.lead.length + (value p.name).length) ps

def valuesOf (value : List Char → List Char) (ps : List (Piece Param)) : List (List Char) :=
  ps.filterMap fun
    | .plain _ => none
    | .token p => some (value p.name)

lemma groups_enter {done marks : List Mark} {mark : Mark}
    (hs : s.groups = done ++ mark :: marks) :
    (s.enter (done.length + 1)).groups = done ++ { mark with start := some s.pos } :: marks := by
  simp [Cursor.enter, Cursor.mark, hs]

lemma groups_leave {done marks : List Mark} {mark : Mark}
    (hs : s.groups = done ++ mark :: marks) :
    (s.leave (done.length + 1)).groups = done ++ { mark with stop := some s.pos } :: marks := by
  simp [Cursor.leave, Cursor.mark, hs]

lemma groups_bound {p : Param} {done marks : List Mark} (hs : s.groups = done ++ {} :: marks) :
    (bound value p (done.length + 1) s).groups = done ++ ⟨some (s.pos + p.lead.length),
      some (s.pos + p.lead.length + (value p.name).length)⟩ :: marks := by
  have henter := groups_enter (s := s.past p.lead) hs
  exact groups_leave (s := ((s.past p.lead).enter (done.length + 1)).past (value p.name)) henter

lemma pos_bound (p : Param) (index : Nat) :
    (bound value p index s).pos = s.pos + p.lead.length + (value p.name).length := rfl

/-- What the capture groups of some parts hold after them. -/
theorem groups_after (done : List Mark) (m : Nat)
    (hs : s.groups = done ++ List.replicate (holesOf ps + m) ({} : Mark)) :
    (after value done.length ps s).groups =
      done ++ (marksOf value s.pos ps ++ List.replicate m ({} : Mark)) := by
  induction ps generalizing s done with
  | nil => simpa [after, marksOf, holesOf, slotsOf] using hs
  | cons q ps ih =>
    cases q with
    | plain c => exact ih (s := s.past [c]) done hs
    | token p =>
      have hcount : holesOf (.token p :: ps) + m = (holesOf ps + m) + 1 := by
        simp only [holesOf, slotsOf, List.filterMap_cons, List.length_cons]
        omega
      rw [hcount, List.replicate_succ] at hs
      have hb : (bound value p (done.length + 1) s).groups = _ := groups_bound hs
      rw [← List.singleton_append, ← List.append_assoc] at hb
      have := ih _ hb
      rw [List.length_append, List.length_singleton, pos_bound] at this
      rw [after, this, marksOf, List.append_assoc]
      rfl

/-- What the capture groups of some parts hold are the values of the parameters. -/
lemma texts_marksOf {path : List Char} (before rest : List Char)
    (h : path = before ++ (filled value ps ++ rest)) :
    (marksOf value before.length ps).map (fun m => m.span?.map (·.of path)) =
      (valuesOf value ps).map some := by
  induction ps generalizing before with
  | nil => rfl
  | cons q ps ih =>
    cases q with
    | plain c =>
      have := ih (before ++ [c]) (by simpa using h)
      rwa [List.length_append] at this
    | token p =>
      have hrest := ih (before ++ (p.lead ++ value p.name)) (by simpa using h)
      have hspan : (Span.mk (before.length + p.lead.length)
          (before.length + p.lead.length + (value p.name).length)).of path = value p.name := by
        have hsplit : path = (before ++ p.lead) ++ (value p.name ++ (filled value ps ++ rest)) := by
          simpa using h
        rw [Span.of, hsplit, ← List.length_append, List.drop_left, Nat.add_sub_cancel_left,
          List.take_left]
      rw [List.length_append, List.length_append, ← Nat.add_assoc] at hrest
      rw [marksOf, List.map_cons, hrest]
      exact congrArg (· :: _) (congrArg some hspan)

/-- A capture group was not left before it was entered. -/
def isOrdered (m : Mark) : Bool := m.span?.all fun span => span.start ≤ span.stop

lemma isOrdered_marksOf (pos : Nat) : (marksOf value pos ps).all isOrdered := by
  induction ps generalizing pos with
  | nil => rfl
  | cons q ps ih =>
    cases q with
    | plain c => exact ih _
    | token p =>
      rw [marksOf, List.all_cons, ih, Bool.and_true]
      simp [isOrdered, Mark.span?]

lemma isCrossed_eq_false {span : Span} {marks : List Mark} :
    (Regex.Match.mk span (marks.map Mark.span?)).isCrossed = false ↔ marks.all isOrdered := by
  rw [Regex.Match.isCrossed, List.any_map, List.any_eq_false, List.all_eq_true]
  refine forall₂_congr fun m _ => ?_
  cases hs : m.span? with
  | none => simp [hs, isOrdered]
  | some span => simp [hs, isOrdered]

lemma after_after (count : Nat) (hs : s.after = filled value ps ++ rest) :
    (after value count ps s).after = rest := by
  induction ps generalizing s count with
  | nil => exact hs
  | cons q ps ih =>
    cases q with
    | plain c => exact ih count (Cursor.past_after (u := [c]) hs)
    | token p => exact ih (count + 1) (after_bound (count + 1) (by rw [hs]; simp))

/-- A tight path is found in its own text: its parameters take their values. -/
theorem search_tight {b : Bool} (strict : Bool) (text : List Char)
    (ht : IsTight (casingOf b) value ps) :
    ∃ m, (matcherOf b strict text (nodesOf (casingOf b) 0 ps) (holesOf ps)).search
        (filled value ps) = some m ∧ m.isCrossed = false ∧
      m.texts (filled value ps) = (valuesOf value ps).map some := by
  let s := start (holesOf ps) (filled value ps)
  obtain ⟨others, ho⟩ := results_tight 0 (s := s)
    (fun s' (h : (Node.ofParts (endNodes _ strict)).results s' ≠ []) =>
      (isEndingOf_of_results h).isEnding)
    ht rfl
  have hend : (after value 0 ps s).after = [] := after_after 0 (by rw [List.append_nil]; rfl)
  rw [results_endNodes strict hend] at ho
  have hgroups : (after value 0 ps s).groups = [] ++ (marksOf value 0 ps ++ []) :=
    groups_after [] 0 rfl
  rw [List.nil_append, List.append_nil] at hgroups
  refine ⟨_, search_matcherOf ho, ?_, ?_⟩
  · rw [hgroups]
    exact isCrossed_eq_false.mpr (isOrdered_marksOf _)
  · rw [Regex.Match.texts, hgroups, List.map_map]
    exact texts_marksOf [] [] (by simp)

/-- A position in a text is its beginning or has characters before it. -/
lemma mem_positions {groups : List Mark} {pos : Nat} {before cs : List Char} {s : Cursor}
    (h : s ∈ Cursor.positions groups pos before cs) :
    s = ⟨pos, before, cs, groups⟩ ∨ s.before ≠ [] := by
  induction cs generalizing pos before with
  | nil => exact .inl (List.mem_singleton.mp h)
  | cons c cs ih =>
    rcases List.mem_cons.mp h with h | h
    · exact .inl h
    · rcases ih h with rfl | h
      · exact .inr (List.cons_ne_nil c before)
      · exact .inr h

/-- A path is not found in a text that its parts do not match from the beginning up to its end. -/
lemma search_matcherOf_eq_none {b strict : Bool} {text path : List Char} {nodes : List Node}
    {count : Nat}
    (h : ((Node.ofParts nodes).results (start count path)).flatMap
      (Node.ofParts (endNodes (casingOf b) strict)).results = []) :
    (matcherOf b strict text nodes count).search path = none := by
  rw [Regex.search_eq, List.findSome?_eq_none_iff]
  intro s hs
  have hroot : (matcherOf b strict text nodes count).root.results s = [] := by
    rw [matcherOf, Node.results_ofParts_cons]
    rcases mem_positions hs with rfl | hbefore
    · change List.flatMap _ [start count path] = []
      rw [List.flatMap_cons, List.flatMap_nil, List.append_nil, Node.results_ofParts_append, h]
    · have hanchor : (Node.anchor .textStart).results s = [] := by
        rw [Node.results, Anchor.holds, List.isEmpty_eq_false_iff.mpr hbefore]
        rfl
      rw [hanchor]
      rfl
  have hnone : (matcherOf b strict text nodes count).preferred s = none := by
    change ((matcherOf b strict text nodes count).root.results s).head? = none
    rw [hroot]
    rfl
  rw [Regex.matchAt, hnone]
  split <;> rfl

/-- What is found of a path is a way to match its parts from the beginning, and then its end. -/
lemma exists_way_of_search {b strict : Bool} {text path : List Char} {nodes : List Node}
    {count : Nat} {m : Regex.Match}
    (h : (matcherOf b strict text nodes count).search path = some m) :
    ∃ t ∈ (Node.ofParts nodes).results (start count path),
      ∃ e ∈ (Node.ofParts (endNodes (casingOf b) strict)).results t,
        m = ⟨⟨0, e.pos⟩, e.groups.map Mark.span?⟩ := by
  cases hways : ((Node.ofParts nodes).results (start count path)).flatMap
      (Node.ofParts (endNodes (casingOf b) strict)).results with
  | nil =>
    rw [search_matcherOf_eq_none hways] at h
    cases h
  | cons e others =>
    rw [search_matcherOf hways] at h
    have he := hways ▸ List.mem_cons_self (a := e) (l := others)
    obtain ⟨t, ht, he⟩ := List.mem_flatMap.mp he
    exact ⟨t, ht, e, he, (Option.some.inj h).symm⟩

/-- A text in which a path is found is a reading of the path and what may be left of it. -/
theorem reading_of_search {b strict : Bool} {text path : List Char} {count : Nat}
    (h : ((matcherOf b strict text (nodesOf (casingOf b) 0 ps) count).search path).isSome) :
    ∃ w ending, path = w ++ ending ∧ Takes (casingOf b) ps w ∧ IsEndingOf strict ending := by
  obtain ⟨m, hm⟩ := Option.isSome_iff_exists.mp h
  obtain ⟨s, hs, e, he, -⟩ := exists_way_of_search hm
  obtain ⟨w, hw, htakes⟩ := takes_of_mem_results hs
  exact ⟨w, s.after, hw, htakes, isEndingOf_of_results (List.ne_nil_of_mem he)⟩

end ActionRouting.Path
