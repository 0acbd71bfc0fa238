import ActionRouting.Proofs.Path.AtomTokens
import ActionRouting.Proofs.Path.Matching
import ActionRouting.Router.Dispatch

/-! What a path of atoms matches. A text is found exactly where it has a reading, atom by atom, and
the capture groups of whatever match is found hold the texts of its parameters in such a reading. -/
namespace ActionRouting.Path

open Text Regex

/-- A text is read atom by atom: a character of the set of an atom, or for a parameter a slash and a
text that is not empty and has no slash. -/
inductive ReadsAs (casing : Casing) : List Atom → List (List Char) → List Char → Prop
  | nil : ReadsAs casing [] [] []
  | one {a : Atom} {u : List Char} {d : Char} {as : List Atom} {xs : List (List Char)}
      {w : List Char} : a.choice = some u → (setOf casing u).contains d → ReadsAs casing as xs w →
      ReadsAs casing (a :: as) xs (d :: w)
  | hole {name x : List Char} {as : List Atom} {xs : List (List Char)} {w : List Char} :
      x ≠ [] → '/' ∉ x → ReadsAs casing as xs w →
      ReadsAs casing (.hole name :: as) (x :: xs) ('/' :: x ++ w)

variable {casing : Casing} {as bs : List Atom} {xs : List (List Char)} {w path rest : List Char}
  {s e : Cursor} {index : Nat}

def holeNodes (casing : Casing) (index : Nat) : List Node :=
  (Atom.param []).nodes casing index

/-- The position behind a slash and the text of a parameter. -/
def pastHole (x : List Char) (index : Nat) (s : Cursor) : Cursor :=
  (((s.past ['/']).enter index).past x).leave index

lemma results_holeNodes (s : Cursor) : (Node.ofParts (holeNodes casing index)).results s =
    ((charNode casing '/').results s).flatMap fun t =>
      ((Node.loop false 1 none (.chars ⟨true, (Atom.param []).barred, casing, false⟩)).results
        (t.enter index)).map (·.leave index) := by
  change (Node.ofParts
    [charNode casing '/', (Atom.param []).captureNode casing index]).results s = _
  rw [Node.results_ofParts_cons]
  congr 1
  funext t
  rw [Node.results_ofParts_singleton, Param.captureNode, Node.results,
    Node.results_ofParts_singleton]

/-- A parameter takes a slash and a text that is not empty and has no slash. -/
lemma mem_results_hole (h : e ∈ (Node.ofParts (holeNodes casing index)).results s) :
    ∃ x, x ≠ [] ∧ '/' ∉ x ∧ s.after = '/' :: x ++ e.after ∧ e = pastHole x index s := by
  rw [results_holeNodes] at h
  obtain ⟨t, ht, h⟩ := List.mem_flatMap.mp h
  obtain ⟨d, hd, ha, rfl⟩ := Node.mem_results_chars ht
  obtain rfl := casing.eq_of_mem_variants (by decide) (contains_char.mp hd)
  obtain ⟨t, ht, rfl⟩ := List.mem_map.mp h
  obtain ⟨x, hne, hx, hafter, rfl⟩ := Node.mem_results_lazy ht
  refine ⟨x, hne, fun hm => (contains_barred.mp (hx _ hm)).1 rfl, ?_, rfl⟩
  rw [ha]
  exact congrArg ('/' :: ·) hafter

lemma pastHole_mem {x : List Char} (hne : x ≠ []) (hx : '/' ∉ x)
    (hs : s.after = '/' :: x ++ rest) :
    pastHole x index s ∈ (Node.ofParts (holeNodes casing index)).results s := by
  rw [results_holeNodes,
    show (charNode casing '/').results s = [s.past ['/']] from
      Node.results_chars_of_mem hs (contains_char.mpr (casing.mem_variants _)),
    List.flatMap_cons, List.flatMap_nil, List.append_nil]
  have hopen : ((s.past ['/']).enter index).after = x ++ rest := Cursor.past_after (u := ['/']) hs
  have hset : ∀ c ∈ x, (CharSet.mk true (Atom.param []).barred casing false).contains c :=
    fun c hc => contains_barred.mpr ⟨ne_of_mem_of_not_mem hc hx, by simp [Atom.param, Hole.param]⟩
  obtain ⟨earlier, later, hr, -⟩ := Node.results_lazy hopen hset hne
  rw [hr]
  exact List.mem_map_of_mem (by simp)

lemma pastHole_after {x : List Char} (index : Nat) (hs : s.after = '/' :: x ++ rest) :
    (pastHole x index s).after = rest :=
  Cursor.past_after (s := (s.past ['/']).enter index) (Cursor.past_after (u := ['/']) hs)

/-- Every reading of a text is a way to match it. -/
theorem exists_mem_results (count : Nat) (h : ReadsAs casing as xs w) (hs : s.after = w ++ rest) :
    ∃ e ∈ (Node.ofParts (atomNodes casing count as)).results s, e.after = rest := by
  induction h generalizing s count with
  | nil => exact ⟨s, List.mem_singleton.mpr rfl, hs⟩
  | @one a u d as xs w hu hd _ ih =>
    obtain ⟨e, he, hafter⟩ := ih count (Cursor.past_after (u := [d]) hs)
    refine ⟨e, ?_, hafter⟩
    rw [atomNodes, hu]
    simp only [Node.results_ofParts_cons, Node.results_chars_of_mem hs hd, List.flatMap_cons,
      List.flatMap_nil, List.append_nil]
    exact he
  | @hole name x as xs w hne hx _ ih =>
    rw [List.append_assoc] at hs
    obtain ⟨e, he, hafter⟩ := ih (count + 1) (pastHole_after (count + 1) hs)
    refine ⟨e, ?_, hafter⟩
    change e ∈ (Node.ofParts (holeNodes casing (count + 1) ++ _)).results s
    rw [Node.results_ofParts_append]
    exact List.mem_flatMap.mpr ⟨_, pastHole_mem hne hx hs, he⟩

def IsIn (path : List Char) (s : Cursor) : Prop := path.drop s.pos = s.after

lemma IsIn.past (h : IsIn path s) (u : List Char) : IsIn path (s.past u) := by
  rw [IsIn, Cursor.past, ← h, List.drop_drop]

/-- Some capture groups hold some texts, and none was left before it was entered. -/
def Hold (path : List Char) (marks : List Mark) (xs : List (List Char)) : Prop :=
  marks.all isOrdered ∧ marks.map (fun m => m.span?.map (·.of path)) = xs.map some

/-- The mark of the parameter that is read at a position. -/
lemma Hold.cons {x : List Char} {marks : List Mark} (hin : IsIn path s)
    (hs : s.after = '/' :: x ++ rest) (h : Hold path marks xs) :
    Hold path (⟨some (s.pos + 1), some (s.pos + 1 + x.length)⟩ :: marks) (x :: xs) := by
  have hspan : (Span.mk (s.pos + 1) (s.pos + 1 + x.length)).of path = x := by
    rw [Span.of, ← List.drop_drop, hin, hs, Nat.add_sub_cancel_left]
    simp
  refine ⟨?_, ?_⟩
  · rw [List.all_cons, h.1, Bool.and_true]
    simp [isOrdered, Mark.span?]
  · rw [List.map_cons, List.map_cons, h.2]
    exact congrArg (· :: _) (congrArg some hspan)

/-- Every way to match a path is a reading of it, and the capture groups hold the texts of the
parameters. -/
theorem reads_of_mem_results {done tail : List Mark} (hin : IsIn path s)
    (hg : s.groups = done ++ (List.replicate (holeNames as).length ({} : Mark) ++ tail))
    (h : e ∈ (Node.ofParts (atomNodes casing done.length as)).results s) :
    ∃ xs w marks, ReadsAs casing as xs w ∧ s.after = w ++ e.after ∧
      e.groups = done ++ (marks ++ tail) ∧ Hold path marks xs := by
  induction as generalizing s done with
  | nil =>
    obtain rfl : e = s := List.mem_singleton.mp h
    exact ⟨[], [], [], .nil, rfl, hg, rfl, rfl⟩
  | cons a as ih =>
    cases hu : a.choice with
    | some u =>
      rw [atomNodes, hu] at h
      simp only [Node.results_ofParts_cons] at h
      obtain ⟨t, ht, h⟩ := List.mem_flatMap.mp h
      obtain ⟨d, hd, ha, rfl⟩ := Node.mem_results_chars ht
      have hcount : holeNames (a :: as) = holeNames as := by
        cases a <;> first | rfl | cases hu
      rw [hcount] at hg
      obtain ⟨xs, w, marks, hreads, hafter, hgroups, hhold⟩ := ih (hin.past [d]) hg h
      exact ⟨xs, d :: w, marks, .one hu hd hreads, by rw [ha, hafter]; rfl, hgroups, hhold⟩
    | none =>
      obtain ⟨name, rfl⟩ : ∃ name, a = .hole name := by
        cases a with
        | hole name => exact ⟨name, rfl⟩
        | _ => cases hu
      change e ∈ (Node.ofParts (holeNodes casing (done.length + 1) ++ _)).results s at h
      rw [Node.results_ofParts_append] at h
      obtain ⟨t, ht, h⟩ := List.mem_flatMap.mp h
      obtain ⟨x, hne, hx, ha, rfl⟩ := mem_results_hole ht
      have hopen : s.groups = done ++ ({} : Mark) ::
          (List.replicate (holeNames as).length ({} : Mark) ++ tail) := hg
      have hmark : (pastHole x (done.length + 1) s).groups = _ :=
        groups_leave (s := ((s.past ['/']).enter (done.length + 1)).past x)
          (groups_enter (s := s.past ['/']) hopen)
      rw [← List.singleton_append, ← List.append_assoc] at hmark
      have hin' : IsIn path (pastHole x (done.length + 1) s) := (hin.past ['/']).past x
      obtain ⟨xs, w, marks, hreads, hafter, hgroups, hhold⟩ := ih hin' hmark (by
        rw [List.length_append]
        exact h)
      refine ⟨x :: xs, '/' :: x ++ w, _ :: marks, .hole hne hx hreads, ?_, ?_, hhold.cons hin ha⟩
      · rw [ha, hafter, List.append_assoc]
      · rw [hgroups, List.append_assoc]
        rfl

/-- Each parameter is given one text. -/
lemma ReadsAs.length_eq (h : ReadsAs casing as xs w) : xs.length = (holeNames as).length := by
  induction h with
  | nil => rfl
  | @one a u d as xs w hu _ _ ih =>
    cases a with
    | hole name => cases hu
    | _ => exact ih
  | hole _ _ _ ih => exact congrArg (· + 1) ih

/-- A text is read by atoms of which the first is a set. -/
lemma readsAs_one {a : Atom} {u : List Char} (hu : a.choice = some u) :
    ReadsAs casing (a :: as) xs w ↔
      ∃ d v, w = d :: v ∧ (setOf casing u).contains d ∧ ReadsAs casing as xs v := by
  constructor
  · intro h
    cases h with
    | @one _ u' d _ _ v hu' hd h =>
      obtain rfl := Option.some.inj (hu.symm.trans hu')
      exact ⟨d, v, rfl, hd, h⟩
    | hole => cases hu
  · rintro ⟨d, v, rfl, hd, h⟩
    exact .one hu hd h

/-- A text is read by some atoms and then by others. -/
lemma readsAs_append {zs : List (List Char)} : ReadsAs casing (as ++ bs) zs w ↔
    ∃ xs ys u v, zs = xs ++ ys ∧ w = u ++ v ∧ ReadsAs casing as xs u ∧ ReadsAs casing bs ys v := by
  constructor
  · intro h
    induction as generalizing zs w with
    | nil => exact ⟨[], zs, [], w, rfl, rfl, .nil, h⟩
    | cons a as ih =>
      cases h with
      | @one _ _ d _ _ w hu hd h =>
        obtain ⟨xs, ys, u, v, rfl, rfl, has, hbs⟩ := ih h
        exact ⟨xs, ys, d :: u, v, rfl, rfl, .one hu hd has, hbs⟩
      | @hole _ x _ zs w hne hx h =>
        obtain ⟨xs, ys, u, v, rfl, rfl, has, hbs⟩ := ih h
        exact ⟨x :: xs, ys, '/' :: x ++ u, v, rfl, by simp, .hole hne hx has, hbs⟩
  · rintro ⟨xs, ys, u, v, rfl, rfl, has, hbs⟩
    induction has with
    | nil => exact hbs
    | one hu hd _ ih => exact .one hu hd ih
    | hole hne hx _ ih =>
      rw [List.append_assoc]
      exact .hole hne hx ih

/-- An atom that begins with a slash takes one first. -/
lemma ReadsAs.head?_eq {a : Atom} (h : ReadsAs casing (a :: as) xs w) (hl : a.leads) :
    w.head? = some '/' := by
  have hslash {c d : Char} (hc : c = '/') (hd : (setOf casing [c]).contains d) : d = '/' := by
    subst hc
    exact casing.eq_of_mem_variants (by decide) (contains_char.mp hd)
  cases h with
  | @one _ u d _ _ v hu hd =>
    cases a with
    | char c | escape c =>
      obtain rfl := Option.some.inj hu
      rw [hslash (beq_iff_eq.mp hl) hd]
      rfl
    | set u => cases hl
    | hole name => cases hu
  | hole => rfl

/-- Two texts without slashes are one if they end at slashes in one text. -/
lemma eq_of_slashes {x y v w : List Char} (hx : '/' ∉ x) (hy : '/' ∉ y)
    (hv : v.head?.all (· == '/')) (hw : w.head?.all (· == '/')) (h : x ++ v = y ++ w) : x = y := by
  have hstop {z u : List Char} (hz : '/' ∉ z) (hu : u.head?.all (· == '/')) :
      (z ++ u).takeWhile (· != '/') = z := by
    rw [List.takeWhile_append_of_pos fun c hc => by simpa using ne_of_mem_of_not_mem hc hz]
    cases u with
    | nil => simp
    | cons c u =>
      obtain rfl : c = '/' := by simpa using hu
      simp
  rw [← hstop hx hv, h, hstop hy hw]

def endsOpen (as : List Atom) : Bool := as.getLast?.any (·.name?.isSome)

lemma endsOpen_cons {a : Atom} (h : endsOpen as) : endsOpen (a :: as) := by
  cases as with
  | nil => cases h
  | cons b as => rwa [endsOpen, List.getLast?_cons_cons]

/-- Behind a parameter there is a slash, or the end of the path and what comes then. -/
lemma ReadsAs.isEdge_append {name r : List Char} (h : ReadsAs casing as xs w)
    (hs : as.head?.all Atom.leads) (hr : endsOpen (.hole name :: as) → r.head?.all (· == '/')) :
    (w ++ r).head?.all (· == '/') := by
  cases as with
  | nil =>
    cases h
    exact hr rfl
  | cons a as =>
    have hw := h.head?_eq (by simpa using hs)
    rw [List.head?_append, hw]
    rfl

/-- A text is read in one way. -/
theorem ReadsAs.unique {ys : List (List Char)} {v r₁ r₂ : List Char} (hs : isSegmented as)
    (h₁ : ReadsAs casing as xs w) (h₂ : ReadsAs casing as ys v) (h : w ++ r₁ = v ++ r₂)
    (hr₁ : endsOpen as → r₁.head?.all (· == '/')) (hr₂ : endsOpen as → r₂.head?.all (· == '/')) :
    xs = ys ∧ w = v := by
  induction h₁ generalizing ys v with
  | nil =>
    cases h₂
    exact ⟨rfl, rfl⟩
  | @one a u d as xs w hu hd h₁ ih =>
    obtain ⟨d', v, rfl, -, hrest⟩ := (readsAs_one hu).mp h₂
    obtain ⟨rfl, htails⟩ := List.cons.inj h
    have hs' : isSegmented as := by
      cases a with
      | hole name => cases hu
      | _ => exact hs
    obtain ⟨rfl, rfl⟩ := ih hs' hrest htails (fun he => hr₁ (endsOpen_cons he))
      fun he => hr₂ (endsOpen_cons he)
    exact ⟨rfl, rfl⟩
  | @hole name x as xs w hne hx h₁ ih =>
    cases h₂ with
    | one hu => cases hu
    | @hole _ y _ ys v hne' hy h₂ =>
      rw [isSegmented, Bool.and_eq_true] at hs
      have htails : x ++ (w ++ r₁) = y ++ (v ++ r₂) := by simpa using h
      obtain rfl := eq_of_slashes hx hy (h₁.isEdge_append hs.1 hr₁) (h₂.isEdge_append hs.1 hr₂)
        htails
      obtain ⟨rfl, rfl⟩ := ih hs.2 h₂ (List.append_cancel_left htails)
        (fun he => hr₁ (endsOpen_cons he)) fun he => hr₂ (endsOpen_cons he)
      exact ⟨rfl, rfl⟩

/-! ### Searching a path -/

/-- The parts that end a path can be matched before what may be left of it. -/
lemma exists_mem_endNodes {strict : Bool} (casing : Casing) (h : IsEndingOf strict s.after) :
    ∃ e, e ∈ (Node.ofParts (endNodes casing strict)).results s := by
  have hanchor (t : Cursor) (ht : t.after ∈ [[], ['\n']]) :
      t ∈ (Node.ofParts [.anchor .finalLineEnd]).results t := by
    have hholds : Anchor.holds t .finalLineEnd = true := by simpa [Anchor.holds] using ht
    rw [Node.results_ofParts_singleton, Node.results, if_pos hholds]
    exact List.mem_singleton.mpr rfl
  have hloose {t : Cursor} (ht : t ∈ (charNode casing '/').results s ++ [s])
      (ha : t.after ∈ [[], ['\n']]) :
      t ∈ (Node.ofParts (endNodes casing false)).results s := by
    change t ∈ (Node.ofParts (_ :: [.anchor .finalLineEnd])).results s
    rw [Node.results_ofParts_cons, Node.results_optional]
    exact List.mem_flatMap.mpr ⟨t, ht, hanchor t ha⟩
  rcases h with h | ⟨rfl, h⟩
  · cases strict with
    | true => exact ⟨s, hanchor s h⟩
    | false => exact ⟨s, hloose (by simp) h⟩
  · obtain ⟨rest, hs, hrest⟩ : ∃ rest, s.after = '/' :: rest ∧ rest ∈ [[], ['\n']] := by
      simp only [List.mem_cons, List.not_mem_nil, or_false] at h
      rcases h with h | h <;> exact ⟨_, h, by simp⟩
    have hslash : (charNode casing '/').results s = [s.past ['/']] :=
      Node.results_chars_of_mem hs (contains_char.mpr (casing.mem_variants _))
    refine ⟨s.past ['/'], hloose (by rw [hslash]; simp) ?_⟩
    rwa [Cursor.past_after (u := ['/']) hs]

/-- A path is found where its parts can be matched up to what may be left. -/
lemma search_isSome_iff {b strict : Bool} {text : List Char} {nodes : List Node} {count : Nat} :
    ((matcherOf b strict text nodes count).search path).isSome ↔
      ∃ e ∈ (Node.ofParts nodes).results (start count path), IsEndingOf strict e.after := by
  constructor
  · intro h
    obtain ⟨m, hm⟩ := Option.isSome_iff_exists.mp h
    obtain ⟨t, ht, e, he, -⟩ := exists_way_of_search hm
    exact ⟨t, ht, isEndingOf_of_results (List.ne_nil_of_mem he)⟩
  · rintro ⟨t, ht, hending⟩
    obtain ⟨e, he⟩ := exists_mem_endNodes (casingOf b) hending
    obtain ⟨first, others, hways⟩ := List.exists_cons_of_ne_nil
      (List.ne_nil_of_mem (List.mem_flatMap.mpr ⟨t, ht, he⟩))
    exact Option.isSome_of_eq_some (search_matcherOf hways)

lemma groups_of_mem_endNodes {strict : Bool}
    (h : e ∈ (Node.ofParts (endNodes casing strict)).results s) : e.groups = s.groups := by
  have hanchor (t : Cursor) (ht : e ∈ (Node.ofParts [.anchor .finalLineEnd]).results t) :
      e = t := by
    rw [Node.results_ofParts_singleton, Node.results] at ht
    split at ht
    · exact List.mem_singleton.mp ht
    · cases ht
  cases strict with
  | true => rw [hanchor s h]
  | false =>
    change e ∈ (Node.ofParts (_ :: [.anchor .finalLineEnd])).results s at h
    rw [Node.results_ofParts_cons, Node.results_optional] at h
    obtain ⟨t, ht, h⟩ := List.mem_flatMap.mp h
    obtain rfl := hanchor t h
    rcases List.mem_append.mp ht with ht | ht
    · obtain ⟨d, -, -, rfl⟩ := Node.mem_results_chars ht
      rfl
    · rw [List.mem_singleton.mp ht]

/-- A path reads a text as its atoms do, up to what may be left at the end. -/
def Finds (casing : Casing) (strict : Bool) (as : List Atom) (xs : List (List Char))
    (path : List Char) : Prop :=
  ∃ w ending, path = w ++ ending ∧ ReadsAs casing as xs w ∧ IsEndingOf strict ending

/-- A path that has no end of a line reads a text in one way. -/
lemma Finds.unique {strict : Bool} {ys : List (List Char)} (hs : isSegmented as) (hl : '\n' ∉ path)
    (h₁ : Finds casing strict as xs path) (h₂ : Finds casing strict as ys path) : xs = ys := by
  obtain ⟨w, r₁, rfl, hw, hr₁⟩ := h₁
  obtain ⟨v, r₂, he, hv, hr₂⟩ := h₂
  have hedge {r : List Char} (hr : IsEndingOf strict r) (hl : '\n' ∉ r) :
      r.head?.all (· == '/') := by
    simp only [IsEndingOf, List.mem_cons, List.not_mem_nil, or_false] at hr
    rcases hr with (rfl | rfl) | ⟨-, rfl | rfl⟩ <;> simp_all
  exact (hw.unique hs hv he (fun _ => hedge hr₁ fun h => hl (List.mem_append_right _ h))
    fun _ => hedge hr₂ fun h => hl (he ▸ List.mem_append_right _ h)).1

variable {caseSensitive strict : Bool} {m : Regex.Match}

/-- The ways to match a path from the beginning of a text to its end. -/
def atomWays (caseSensitive strict : Bool) (as : List Atom) (path : List Char) : List Cursor :=
  ((Node.ofParts (atomNodes (casingOf !caseSensitive) 0 as)).results
    (start (holeNames as).length path)).flatMap
      (Node.ofParts (endNodes (casingOf !caseSensitive) strict)).results

lemma reads_of_mem_atomWays (h : e ∈ atomWays caseSensitive strict as path) :
    ∃ xs, Finds (casingOf !caseSensitive) strict as xs path ∧ Hold path e.groups xs := by
  obtain ⟨t, ht, he⟩ := List.mem_flatMap.mp h
  have hin : IsIn path (start (holeNames as).length path) := rfl
  have hgroups : (start (holeNames as).length path).groups =
      [] ++ (List.replicate (holeNames as).length ({} : Mark) ++ []) := by simp [start]
  obtain ⟨xs, w, marks, hreads, hafter, hgroups, hhold⟩ := reads_of_mem_results hin hgroups ht
  have hending := isEndingOf_of_results (List.ne_nil_of_mem he)
  refine ⟨xs, ⟨w, t.after, hafter, hreads, hending⟩, ?_⟩
  rw [groups_of_mem_endNodes he, hgroups]
  simpa using hhold

/-- A path is found in every text that it reads. -/
theorem search_isSome_of_finds (h : Finds (casingOf !caseSensitive) strict as xs path) :
    ((atomPattern caseSensitive strict as).matcher.search path).isSome := by
  obtain ⟨w, ending, hpath, hreads, hending⟩ := h
  obtain ⟨t, ht, hafter⟩ :=
    exists_mem_results 0 hreads (s := start (holeNames as).length path) hpath
  exact search_isSome_iff.mpr ⟨t, ht, hafter ▸ hending⟩

/-- What is found is a reading of the text, and its groups hold the texts of the parameters. -/
theorem finds_of_search (h : (atomPattern caseSensitive strict as).matcher.search path = some m) :
    ∃ xs, Finds (casingOf !caseSensitive) strict as xs path ∧ m.isCrossed = false ∧
      m.texts path = xs.map some := by
  obtain ⟨t, ht, e, he, rfl⟩ := exists_way_of_search h
  obtain ⟨xs, hfinds, hordered, htexts⟩ :=
    reads_of_mem_atomWays (List.mem_flatMap.mpr ⟨t, ht, he⟩)
  refine ⟨xs, hfinds, isCrossed_eq_false.mpr hordered, ?_⟩
  rw [Regex.Match.texts, List.map_map]
  exact htexts

/-! ### What the parameters are given -/

def namedSlots (as : List Atom) : List Slot := (holeNames as).map fun name => ⟨some name, false⟩

lemma atomSlots_eq (h : ∀ u, Atom.set u ∉ as) : atomSlots as = namedSlots as := by
  induction as with
  | nil => rfl
  | cons a as ih =>
    have ih := ih fun u hu => h u (List.mem_cons_of_mem _ hu)
    rw [atomSlots] at ih
    rw [atomSlots, List.flatMap_cons, ih]
    cases a with
    | set u => exact absurd List.mem_cons_self (h u)
    | _ => rfl

/-- A text of a path as a parameter gives it. -/
def decoded (x : List Char) : String := String.ofList (Percent.decode x)

lemma decodeGroups_eq {m : Regex.Match} {xs : List (List Char)} (h : m.texts path = xs.map some) :
    decodeGroups m path = xs.map fun x => some (decoded x) := by
  rw [decodeGroups, h, List.map_map]
  rfl

/-- Slots with names are given the texts in their order. -/
lemma paramsOf_named (names : List String) (xs : List (List Char)) :
    paramsOf (names.map fun name => ⟨some name, false⟩) (xs.map fun x => some (decoded x)) =
      .ofPairs (names.zip (xs.map decoded)) := by
  rw [paramsOf]
  congr 1
  induction names generalizing xs with
  | nil => rfl
  | cons name names ih =>
    cases xs with
    | nil => rfl
    | cons x xs => exact congrArg ((name, decoded x) :: ·) (ih xs)

end ActionRouting.Path
