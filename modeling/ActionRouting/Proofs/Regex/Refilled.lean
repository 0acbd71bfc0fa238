import ActionRouting.Proofs.Regex.Slashed

/-! Regular expressions whose groups take runs of characters other than slashes, matched with their
own filled text. The literal characters behind a group leave it no other run than the one it was
filled with, since the run and these characters end together, where the next slash or the end is. -/
namespace ActionRouting.Regex

open ActionRouting.Path (isBorder)

variable {flags : Flags} {items : List Item} {xs : List (List Char)} {count : Nat}
  {f : Cursor → List Cursor} {s t : Cursor} {path : List Char}

/-! ### Literal characters before a slash -/

lemma charOf_self (c : Char) :
    (CharSet.mk false [.char c.toNat] flags.casing flags.ascii).contains c :=
  Path.contains_char.mpr (flags.casing.mem_variants c)

lemma slash_of_contains {d : Char}
    (h : (CharSet.mk false [.char '/'.toNat] flags.casing flags.ascii).contains d) : d = '/' :=
  flags.casing.eq_of_mem_variants (by decide) (Path.contains_char.mp h)

/-- A character other than the slash does not stand for a slash. -/
lemma ne_slash_of_contains {c d : Char} (hc : c ≠ '/')
    (h : (CharSet.mk false [.char c.toNat] flags.casing flags.ascii).contains d) : d ≠ '/' := by
  rintro rfl
  have hvariants : flags.casing.variants '/' = ['/'.toNat] := by
    cases flags.casing <;> decide
  have hmem : c.toNat ∈ flags.casing.variants '/' := Path.contains_char.mp h
  rw [hvariants, List.mem_singleton] at hmem
  exact hc (Char.toNat_inj.mp hmem)

lemma contains_noSlash {d : Char} : (noSlash flags).contains d = true ↔ d ≠ '/' := by
  have hset : (noSlash flags).contains d = !(flags.casing.variants d).contains '/'.toNat := by
    simp [noSlash, CharSet.contains]
  rw [hset, Bool.not_eq_true', ← Bool.not_eq_true, List.contains_iff_mem]
  exact not_congr ⟨flags.casing.eq_of_mem_variants (by decide),
    fun h => h ▸ flags.casing.mem_variants d⟩

/-- The number of literal characters before the first slash. -/
def stem : List Item → Nat
  | .char c :: items => if c = '/' then 0 else stem items + 1
  | .escaped c :: items => if c = '/' then 0 else stem items + 1
  | _ => 0

/-- A text of some length without slashes, and then a border. -/
def Stems (n : Nat) (cs : List Char) : Prop :=
  ∃ v rest, cs = v ++ rest ∧ v.length = n ∧ '/' ∉ v ∧ isBorder rest

lemma stems_cons {c d : Char} {n : Nat} {cs : List Char} (hslash : c = '/' → d = '/')
    (hne : c ≠ '/' → d ≠ '/') (h : c ≠ '/' → Stems n cs) :
    Stems (if c = '/' then 0 else n + 1) (d :: cs) := by
  by_cases hc : c = '/'
  · obtain rfl := hslash hc
    rw [if_pos hc]
    exact ⟨[], _, rfl, rfl, by simp, rfl⟩
  · obtain ⟨v, rest, rfl, rfl, hv, hb⟩ := h hc
    rw [if_neg hc]
    refine ⟨d :: v, rest, rfl, rfl, ?_, hb⟩
    simpa using ⟨(hne hc).symm, hv⟩

lemma stems_of_char {c : Char} {n : Nat} {nodes : List Node}
    (ht : t ∈ (Node.ofParts (charOf flags c :: nodes)).results s)
    (h : ∀ s', c ≠ '/' → t ∈ (Node.ofParts nodes).results s' → Stems n s'.after) :
    Stems (if c = '/' then 0 else n + 1) s.after := by
  rw [Node.results_ofParts_cons] at ht
  obtain ⟨s', hs', ht⟩ := List.mem_flatMap.mp ht
  obtain ⟨d, hd, ha, -⟩ := Node.mem_results_chars hs'
  rw [ha]
  refine stems_cons ?_ (fun hc => ne_slash_of_contains hc hd) fun hc => h s' hc ht
  rintro rfl
  exact slash_of_contains hd

lemma parted_of_ne {c : Char} (hc : c ≠ '/') (hp : parted (false || c == '/') items) :
    parted false items := by
  rwa [beq_false_of_ne hc] at hp

/-- Where no group comes before the next slash, what is matched up to a border begins with as many
characters as there are before that slash. -/
lemma stems_of_results (hp : parted false items)
    (ht : t ∈ (Node.ofParts (itemNodes flags count items)).results s) (hb : isBorder t.after) :
    Stems (stem items) s.after := by
  induction items generalizing s count with
  | nil =>
    obtain rfl := List.mem_singleton.mp ht
    exact ⟨[], _, rfl, rfl, by simp, hb⟩
  | cons i items ih =>
    cases i with
    | char c => exact stems_of_char ht fun s' hc h => ih (parted_of_ne hc hp) h
    | escaped c => exact stems_of_char ht fun s' hc h => ih (parted_of_ne hc hp) h
    | group name body => cases hp

/-- The filled text of some items without a group before the next slash. -/
lemma stems_spelled (hp : parted false items) : Stems (stem items) (spelled items xs) := by
  induction items with
  | nil => exact ⟨[], [], rfl, rfl, by simp, rfl⟩
  | cons i items ih =>
    cases i with
    | char c => exact stems_cons id id fun hc => ih (parted_of_ne hc hp)
    | escaped c => exact stems_cons id id fun hc => ih (parted_of_ne hc hp)
    | group name body => cases hp

lemma takeWhile_border {u rest : List Char} (hs : '/' ∉ u) (hl : '\n' ∉ u) (hr : isBorder rest) :
    (u ++ rest).takeWhile (fun c => c != '/' && c != '\n') = u := by
  have hall : ∀ c ∈ u, (c != '/' && c != '\n') = true := by
    intro c hc
    simp [ne_of_mem_of_not_mem hc hs, ne_of_mem_of_not_mem hc hl]
  have hnone : rest.takeWhile (fun c => c != '/' && c != '\n') = [] := by
    cases rest with
    | nil => rfl
    | cons c rest =>
      refine List.takeWhile_cons_of_neg ?_
      simpa [isBorder, or_iff_not_imp_left] using hr
  rw [List.takeWhile_append_of_pos hall, hnone, List.append_nil]

/-- Two runs without slashes begin one text, and as many characters follow each up to a border.
Then they are one run. -/
lemma eq_of_stems {x y u w : List Char} {n : Nat} (h : x ++ u = y ++ w) (hl : '\n' ∉ x ++ u)
    (hx : '/' ∉ x) (hy : '/' ∉ y) (hu : Stems n u) (hw : Stems n w) : x = y := by
  obtain ⟨v, rest, rfl, hv, hvs, hb⟩ := hu
  obtain ⟨v', rest', rfl, hv', hvs', hb'⟩ := hw
  have hl' : '\n' ∉ y ++ (v' ++ rest') := h ▸ hl
  simp only [List.mem_append, not_or] at hl hl'
  have hleft : ((x ++ v) ++ rest).takeWhile (fun c => c != '/' && c != '\n') = x ++ v :=
    takeWhile_border (by simp [hx, hvs]) (by simp [hl]) hb
  have hright : ((y ++ v') ++ rest').takeWhile (fun c => c != '/' && c != '\n') = y ++ v' :=
    takeWhile_border (by simp [hy, hvs']) (by simp [hl']) hb'
  rw [List.append_assoc] at hleft hright
  have heq : x ++ v = y ++ v' := by rw [← hleft, h, hright]
  exact (List.append_inj' heq (by rw [hv, hv'])).1

/-! ### The run that a group takes -/

/-- A run that is taken eagerly is one of those that are taken lazily. -/
lemma mem_results_eager {set : CharSet} :
    t ∈ (Node.loop true 1 none (.chars set)).results s ↔
      t ∈ (Node.loop false 1 none (.chars set)).results s := by
  rw [Node.results, Node.results, Node.loopResults_false (Node.length_results_chars_le set),
    List.mem_reverse]

/-- The position behind a group that took a run. -/
def pastGroup (index : Nat) (x : List Char) (s : Cursor) : Cursor :=
  ((s.enter index).past x).leave index

/-- Of all runs that a group may take, the first that can be continued up to a border is the one
that it was filled with. -/
lemma results_group (hf : ∀ t, f t ≠ [] → isBorder t.after) (hp : parted false items)
    (count index : Nat) {x : List Char} (hx : x ≠ []) (hslash : '/' ∉ x)
    (hs : s.after = x ++ spelled items xs) (hl : '\n' ∉ s.after) :
    ∃ others, (((Node.group index
        (.ofParts [.loop true 1 none (.chars (noSlash flags))])).results s).flatMap fun t =>
          ((Node.ofParts (itemNodes flags count items)).results t).flatMap f) =
      ((Node.ofParts (itemNodes flags count items)).results (pastGroup index x s)).flatMap f ++
        others := by
  have hallowed : ∀ c ∈ x, (noSlash flags).contains c := fun c hc =>
    contains_noSlash.mpr (ne_of_mem_of_not_mem hc hslash)
  have hin : (s.enter index).past x ∈
      (Node.loop true 1 none (.chars (noSlash flags))).results (s.enter index) := by
    obtain ⟨earlier, later, hr, -⟩ := Node.results_lazy (s := s.enter index) hs hallowed hx
    rw [mem_results_eager, hr]
    simp
  obtain ⟨earlier, later, hr, hnew⟩ := List.eq_append_cons_of_mem hin
  have hstuck : earlier.flatMap (fun t => ((Node.ofParts (itemNodes flags count items)).results
      (t.leave index)).flatMap f) = [] := by
    rw [List.flatMap_eq_nil_iff]
    intro t ht
    rw [List.flatMap_eq_nil_iff]
    intro e he
    by_contra hgo
    have htaken : t ∈ (Node.loop true 1 none (.chars (noSlash flags))).results (s.enter index) := by
      rw [hr]
      exact List.mem_append_left _ ht
    obtain ⟨y, -, hy, ha, rfl⟩ := Node.mem_results_lazy (mem_results_eager.mp htaken)
    have hyslash : '/' ∉ y := fun hm => contains_noSlash.mp (hy _ hm) rfl
    have hrest : Stems (stem items) (((s.enter index).past y).leave index).after :=
      stems_of_results hp he (hf e hgo)
    have heq : x = y := eq_of_stems (hs.symm.trans ha) (hs ▸ hl) hslash hyslash
      (stems_spelled hp) hrest
    exact hnew (heq ▸ ht)
  refine ⟨later.flatMap fun t => ((Node.ofParts (itemNodes flags count items)).results
    (t.leave index)).flatMap f, ?_⟩
  rw [Node.results, Node.results_ofParts_singleton, hr, List.flatMap_map, List.flatMap_append,
    hstuck, List.nil_append, List.flatMap_cons]
  rfl

/-! ### The whole text -/

/-- Behind the groups that are done, a position knows groups that took some texts of a path. -/
def Cursor.Holds (path : List Char) (done : List Mark) (xs : List (List Char)) (s : Cursor) :
    Prop :=
  ∃ marks, s.groups = done ++ marks ∧
    marks.map (fun m => m.span?.map (·.of path)) = xs.map some ∧ marks.all Path.isOrdered

/-- The last group that is done is the first of those that took some texts. -/
lemma Cursor.Holds.cons {done : List Mark} {start stop : Nat} {x : List Char}
    (hspan : (Span.mk start stop).of path = x) (hle : start ≤ stop)
    (h : s.Holds path (done ++ [⟨some start, some stop⟩]) xs) : s.Holds path done (x :: xs) := by
  obtain ⟨marks, hmarks, htexts, hordered⟩ := h
  refine ⟨⟨some start, some stop⟩ :: marks, ?_, ?_, ?_⟩
  · rw [hmarks, List.append_assoc, List.singleton_append]
  · rw [List.map_cons, htexts, List.map_cons]
    exact congrArg (some · :: _) hspan
  · rw [List.all_cons, hordered, Bool.and_true]
    exact decide_eq_true hle

/-- Of all ways to match some items, the first that can be continued up to a border takes the text
of each group as a whole. -/
theorem results_spelled (hf : ∀ t, f t ≠ [] → isBorder t.after) {free : Bool}
    (hp : parted free items) (hlen : xs.length = groupsOf items)
    (hx : ∀ x ∈ xs, x ≠ [] ∧ '/' ∉ x) (flags : Flags) (before : List Char) (done : List Mark)
    (hpath : path = before ++ spelled items xs) (hs : s.after = spelled items xs)
    (hl : '\n' ∉ s.after) (hpos : s.pos = before.length)
    (hg : s.groups = done ++ List.replicate (groupsOf items) ({} : Mark)) :
    ∃ e others, ((Node.ofParts (itemNodes flags done.length items)).results s).flatMap f =
        f e ++ others ∧ e.after = [] ∧ e.Holds path done xs := by
  induction items generalizing free xs s before done with
  | nil =>
    obtain rfl : xs = [] := List.length_eq_zero_iff.mp hlen
    exact ⟨s, [], by simp [itemNodes, Node.ofParts, Node.results], hs, [], hg, rfl, rfl⟩
  | cons i items ih =>
    have hchar (c : Char) (hi : itemNodes flags done.length (i :: items) =
        charOf flags c :: itemNodes flags done.length items)
        (hspell : spelled (i :: items) xs = c :: spelled items xs)
        (hcount : groupsOf (i :: items) = groupsOf items) {free : Bool}
        (hp : parted free items) :
        ∃ e others, ((Node.ofParts (itemNodes flags done.length (i :: items))).results s).flatMap
          f = f e ++ others ∧ e.after = [] ∧ e.Holds path done xs := by
      rw [hspell] at hpath hs
      rw [hcount] at hg hlen
      have hafter : (s.past [c]).after = spelled items xs := Cursor.past_after (u := [c]) hs
      obtain ⟨e, others, he⟩ := ih hp hlen hx (before ++ [c]) done (s := s.past [c])
        (by rw [hpath, List.append_assoc, List.singleton_append]) hafter
        (by
          rw [hafter]
          rw [hs] at hl
          exact fun hm => hl (List.mem_cons_of_mem c hm))
        (by rw [List.length_append, ← hpos]; rfl) hg
      refine ⟨e, others, ?_⟩
      rwa [hi, Node.results_ofParts_cons, charOf, Node.results_chars_of_mem hs (charOf_self c),
        List.flatMap_cons, List.flatMap_nil, List.append_nil]
    cases i with
    | char c => exact hchar c rfl rfl rfl hp
    | escaped c => exact hchar c rfl rfl rfl hp
    | group name body =>
      have hcount : groupsOf (.group name body :: items) = groupsOf items + 1 := rfl
      rw [hcount] at hg hlen
      obtain ⟨x, xs, rfl⟩ := List.exists_cons_of_length_eq_add_one hlen
      obtain ⟨⟨hne, hslash⟩, hx⟩ := List.forall_mem_cons.mp hx
      have hspell : spelled (.group name body :: items) (x :: xs) = x ++ spelled items xs := rfl
      rw [hspell] at hpath hs
      rw [parted, Bool.and_eq_true] at hp
      obtain ⟨others, hgroup⟩ := results_group hf hp.2 (done.length + 1)
        (done.length + 1) hne hslash hs hl
      let mark : Mark := ⟨some s.pos, some (s.pos + x.length)⟩
      have hafter : (pastGroup (done.length + 1) x s).after = spelled items xs :=
        Cursor.past_after (s := s.enter (done.length + 1)) hs
      have hmarked : (pastGroup (done.length + 1) x s).groups =
          (done ++ [mark]) ++ List.replicate (groupsOf items) ({} : Mark) := by
        rw [List.replicate_succ] at hg
        rw [List.append_assoc]
        exact Path.groups_leave (s := (s.enter (done.length + 1)).past x) (Path.groups_enter hg)
      obtain ⟨e, more, he, hend, hholds⟩ := ih hp.2
        (Nat.succ.inj hlen) hx (before ++ x) (done ++ [mark])
        (by rw [hpath, List.append_assoc]) hafter
        (by
          rw [hafter]
          rw [hs] at hl
          exact fun hm => hl (List.mem_append_right x hm))
        (by rw [List.length_append, ← hpos]; rfl) hmarked
      rw [List.length_append, List.length_singleton] at he
      have hspan : (Span.mk s.pos (s.pos + x.length)).of path = x := by
        rw [Span.of, hpath, hpos, List.drop_left, Nat.add_sub_cancel_left, List.take_left]
      refine ⟨e, more ++ others, ?_, hend, Cursor.Holds.cons hspan (Nat.le_add_right _ _) hholds⟩
      rw [itemNodes, Node.results_ofParts_cons, List.flatMap_assoc, hgroup, he, List.append_assoc]

lemma isBorder_of_end (h : t ∈ (Node.ofParts [endOf flags]).results s) : isBorder s.after := by
  have hholds : (if flags.multiLine then Anchor.lineEnd else .finalLineEnd).holds s = true := by
    by_contra hno
    rw [Node.results_ofParts_singleton, endOf, Node.results, if_neg hno] at h
    cases h
  cases hm : flags.multiLine <;> cases ha : s.after <;> simp_all [Anchor.holds, isBorder]

/-- What is matched up to the end of a text is followed by a border. -/
lemma isBorder_of_ending (ending : Ending)
    (h : (Node.ofParts (ending.nodes flags)).results s ≠ []) : isBorder s.after := by
  obtain ⟨e, he⟩ := List.exists_mem_of_ne_nil _ h
  have hslash (he : e ∈ (Node.ofParts (Ending.slash.nodes flags)).results s) :
      isBorder s.after := by
    rw [Ending.nodes, Node.results_ofParts_cons, Node.results_optional] at he
    · obtain ⟨t, ht, he⟩ := List.mem_flatMap.mp he
      rcases List.mem_append.mp ht with ht | ht
      · obtain ⟨d, hd, ha, -⟩ := Node.mem_results_chars ht
        rw [ha, slash_of_contains hd]
        rfl
      · rw [List.mem_singleton.mp ht] at he
        exact isBorder_of_end he
    · exact Ending.noConfusion
  cases ending with
  | bare => exact isBorder_of_end he
  | slash => exact hslash he
  | escapedSlash => exact hslash he

/-- At the end of a text, an ending takes nothing. -/
lemma results_ending (ending : Ending) (hs : s.after = []) :
    (Node.ofParts (ending.nodes flags)).results s = [s] := by
  have hend : (Node.ofParts [endOf flags]).results s = [s] := by
    rw [Node.results_ofParts_singleton, endOf, Node.results]
    cases hm : flags.multiLine <;> simp [Anchor.holds, hs]
  have hslash : (Node.ofParts (Ending.slash.nodes flags)).results s = [s] := by
    have hloop : (Node.loop true 0 (some 1) (charOf flags '/')).results s = [s] := by
      rw [Node.results_optional, charOf, Node.results_chars_nil _ s hs, List.nil_append]
    change (Node.ofParts [_, endOf flags]).results s = [s]
    rw [Node.results_ofParts_cons, hloop, List.flatMap_cons, hend]
    rfl
  cases ending with
  | bare => exact hend
  | slash => exact hslash
  | escapedSlash => exact hslash

/-- A character of the text of some items stands for itself, is a mark, or comes from a group. -/
lemma mem_spelled (hi : ∀ i ∈ items, i.isSegmental) {c : Char} (h : c ∈ spelled items xs) :
    Item.isLetter c ∨ c ∈ marks ∨ ∃ x ∈ xs, c ∈ x := by
  induction items generalizing xs with
  | nil => cases h
  | cons i items ih =>
    obtain ⟨hfirst, hrest⟩ := List.forall_mem_cons.mp hi
    cases i with
    | char d =>
      rcases List.mem_cons.mp h with rfl | h
      · exact .inl hfirst
      · exact ih hrest h
    | escaped d =>
      rcases List.mem_cons.mp h with rfl | h
      · exact .inr (.inl (List.contains_iff_mem.mp hfirst))
      · exact ih hrest h
    | group name body =>
      cases xs with
      | nil => exact ih hrest h
      | cons x xs =>
        rcases List.mem_append.mp h with h | h
        · exact .inr (.inr ⟨x, List.mem_cons_self, h⟩)
        · refine (ih hrest h).imp_right (Or.imp_right ?_)
          rintro ⟨y, hy, hc⟩
          exact ⟨y, List.mem_cons_of_mem x hy, hc⟩

/-- A character that no item writes for itself comes from a group. -/
lemma not_mem_spelled (hi : ∀ i ∈ items, i.isSegmental) {c : Char}
    (hc : (Item.isLetter c || marks.contains c) = false) (hx : ∀ x ∈ xs, c ∉ x) :
    c ∉ spelled items xs := by
  intro h
  rw [Bool.or_eq_false_iff] at hc
  rcases mem_spelled hi h with hl | hm | ⟨x, hmem, hcx⟩
  · rw [hc.1] at hl
    cases hl
  · rw [List.contains_iff_mem.mpr hm] at hc
    cases hc.2
  · exact hx x hmem hcx

/-- A regular expression whose groups are parted by slashes finds its own filled text, and each
group takes what it was filled with. -/
theorem search_spelled {ending : Ending} {r : Regex} (hi : ∀ i ∈ items, i.isSegmental)
    (hp : parted true items)
    (h : compile flags (String.ofList (sourceOf items ending)) = .ok r)
    (hlen : xs.length = groupsOf items) (hx : ∀ x ∈ xs, x ≠ [] ∧ '/' ∉ x)
    (hl : '\n' ∉ spelled items xs) :
    ∃ m, r.search (spelled items xs) = some m ∧ m.isCrossed = false ∧
      m.texts (spelled items xs) = xs.map some := by
  obtain ⟨hroot, hcount, hdirect⟩ := root_of_compile hi h
  obtain ⟨e, others, he, hend, marks, hmarks, htexts, hordered⟩ :=
    results_spelled (s := Path.start r.groupCount (spelled items xs))
      (fun t ht => isBorder_of_ending ending ht) hp hlen hx flags [] [] rfl rfl hl rfl
      (by rw [← hcount]; rfl)
  rw [results_ending ending hend] at he
  have hways : r.root.results (Path.start r.groupCount (spelled items xs)) = e :: others := by
    have hanchor : (Node.anchor (if flags.multiLine then .lineStart else .textStart)).results
        (Path.start r.groupCount (spelled items xs)) =
          [Path.start r.groupCount (spelled items xs)] := by
      cases flags.multiLine <;> rfl
    rw [hroot, Node.results_ofParts_cons, hanchor, List.flatMap_cons, List.flatMap_nil,
      List.append_nil, Node.results_ofParts_append]
    exact he
  rw [List.nil_append] at hmarks
  refine ⟨_, search_of_results hdirect hways, ?_, ?_⟩
  · rw [hmarks]
    exact Path.isCrossed_eq_false.mpr hordered
  · rw [Match.texts, List.map_map, hmarks]
    exact htexts

end ActionRouting.Regex
