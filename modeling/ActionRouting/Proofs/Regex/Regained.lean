import ActionRouting.Proofs.Regex.Anchored
import ActionRouting.Proofs.Regex.Enclosed

/-! A text that a regular expression of characters and groups matches is spelled by what its groups
took. The groups in a group come behind it among all capture groups, and spell nothing more. -/
namespace ActionRouting.Regex

/-- Of the texts that all capture groups took, in the order in which they open, those of the groups
that are items. -/
def ownOf : List Item → List (List Char) → List (List Char)
  | [], _ => []
  | .char _ :: items, xs => ownOf items xs
  | .escaped _ :: items, xs => ownOf items xs
  | .group _ body :: items, x :: xs => x :: ownOf items (xs.drop (opensOf body))
  | .group _ _ :: _, [] => []

/-- No group holds capture groups, but for the last one: each group that is an item has the same
place among the items as among all capture groups. -/
def keepsCount : List Item → Bool
  | [] => true
  | .group _ body :: items => (opensOf body == 0 || groupsOf items == 0) && keepsCount items
  | _ :: items => keepsCount items

variable {path : List Char} {count n : Nat} {marks : List Mark} {s t : Cursor}
  {items : List Item} {nodes : List Node}

lemma spelled_nil (h : groupsOf items = 0) (xs ys : List (List Char)) :
    spelled items xs = spelled items ys := by
  induction items with
  | nil => rfl
  | cons i items ih =>
    cases i with
    | char c => exact congrArg (c :: ·) (ih h)
    | escaped c => exact congrArg (c :: ·) (ih h)
    | group name body => cases h

/-- Where the groups keep their places, the first texts are those of the items. -/
lemma spelled_ownOf (h : keepsCount items) (xs : List (List Char)) :
    spelled items (ownOf items xs) = spelled items xs := by
  induction items generalizing xs with
  | nil => rfl
  | cons i items ih =>
    cases i with
    | char c => exact congrArg (c :: ·) (ih h xs)
    | escaped c => exact congrArg (c :: ·) (ih h xs)
    | group name body =>
      rw [keepsCount, Bool.and_eq_true, Bool.or_eq_true, beq_iff_eq, beq_iff_eq] at h
      cases xs with
      | nil => rfl
      | cons x xs =>
        refine congrArg (x ++ ·) ?_
        rcases h.1 with hopens | hlast
        · rw [hopens]
          exact ih h.2 xs
        · exact spelled_nil hlast _ _

/-! ### What the groups took -/

lemma Cursor.IsOn.drop_pos (h : s.IsOn path count marks) : path.drop s.pos = s.after := by
  rw [← h.text_eq, h.pos_eq, ← List.length_reverse, List.drop_left]

/-- What lies between two positions comes before what lies behind both. -/
lemma drop_span {start stop : Nat} (h : start ≤ stop) :
    (Span.mk start stop).of path ++ path.drop stop = path.drop start := by
  have hsplit : path.drop stop = (path.drop start).drop (stop - start) := by
    rw [List.drop_drop, Nat.add_sub_cancel' h]
  rw [hsplit]
  exact List.take_append_drop _ _

/-- A group is marked with the positions before and behind it, and the groups in it come after its
mark. -/
lemma isOn_group {a : Node} {k : Nat} (ha : a.isAbove (marks.length + 1))
    (hroom : marks.length + 1 + k ≤ count) (h : s.IsOn path count marks)
    (ht : t ∈ (Node.group (marks.length + 1) a).results s) :
    ∃ inner, inner.length = k ∧
      t.IsOn path count (marks ++ ⟨some s.pos, some t.pos⟩ :: inner) := by
  obtain ⟨u, hu, rfl⟩ := List.mem_map.mp ht
  obtain ⟨rest, hrest⟩ := h.keeps.begins
  have hlength := h.keeps.length_eq
  rw [← hrest, List.length_append] at hlength
  obtain ⟨mark, others, rfl⟩ := List.exists_cons_of_length_pos (l := rest) (by omega)
  have henter := Path.groups_enter hrest.symm
  have hopen : (s.enter (marks.length + 1)).IsOn path count
      (marks ++ [{ mark with start := some s.pos }]) := by
    refine h.withGroups ⟨(List.length_set).trans h.keeps.length_eq, others, ?_⟩
    rw [List.append_assoc]
    exact henter.symm
  have hbody := Node.isOn_results (by rwa [List.length_append]) hopen u hu
  obtain ⟨found, hfound⟩ := hbody.keeps.begins
  rw [List.append_assoc, List.singleton_append] at hfound
  have hleave := Path.groups_leave hfound.symm
  have hcount := hbody.keeps.length_eq
  rw [← hfound, List.length_append, List.length_cons] at hcount
  refine ⟨found.take k, ?_, hbody.withGroups ⟨?_, found.drop k, ?_⟩⟩
  · rw [List.length_take]
    omega
  · exact (List.length_set).trans hbody.keeps.length_eq
  · rw [List.append_assoc, List.cons_append, List.take_append_drop]
    exact hleave.symm

/-- What some items match is spelled by what their own groups took. -/
theorem drop_eq_spelled (hb : Built n items nodes) (hn : marks.length = n)
    (hroom : n + capturesOf items ≤ count) (h : s.IsOn path count marks)
    (ht : t ∈ (Node.ofParts nodes).results s) :
    ∃ took, took.length = capturesOf items ∧ t.IsOn path count (marks ++ took) ∧
      ∀ xs : List (List Char), took.map (fun m => m.span?.map (·.of path)) = xs.map some →
        took.all Path.isOrdered →
          path.drop s.pos = spelled items (ownOf items xs) ++ path.drop t.pos := by
  induction hb generalizing marks s with
  | nil =>
    obtain rfl := List.mem_singleton.mp ht
    exact ⟨[], rfl, by rwa [List.append_nil], fun _ _ _ => rfl⟩
  | @char n c items nodes _ ih =>
    rw [Node.results_ofParts_cons] at ht
    obtain ⟨s', hs', ht⟩ := List.mem_flatMap.mp ht
    obtain ⟨d, hd, ha, -⟩ := Node.mem_results_chars hs'
    have hs : s'.IsOn path count marks := Node.isOn_results (n := charOf {} c) rfl h s' hs'
    obtain ⟨took, hlen, hon, hspell⟩ := ih hn hroom hs ht
    refine ⟨took, hlen, hon, fun xs hxs hordered => ?_⟩
    have hsame : d = c := by
      have hmem := Path.contains_char.mp hd
      exact (Char.toNat_inj.mp (List.mem_singleton.mp hmem)).symm
    rw [h.drop_pos, ha, hsame, ← hs.drop_pos, hspell xs hxs hordered]
    rfl
  | @group n name body a items nodes ha _ ih =>
    subst hn
    rw [Node.results_ofParts_cons] at ht
    obtain ⟨s', hs', ht⟩ := List.mem_flatMap.mp ht
    rw [capturesOf] at hroom
    obtain ⟨inner, hinner, hs⟩ := isOn_group (k := opensOf body) ha (by omega) h hs'
    obtain ⟨took, hlen, hon, hspell⟩ := ih
      (by rw [List.length_append, List.length_cons, hinner]; omega) (by omega) hs ht
    refine ⟨⟨some s.pos, some s'.pos⟩ :: (inner ++ took), ?_, ?_, fun xs hxs hordered => ?_⟩
    · rw [List.length_cons, List.length_append, hinner, hlen, capturesOf]
      omega
    · rwa [List.append_assoc, List.cons_append] at hon
    · cases xs with
      | nil => cases hxs
      | cons x xs =>
        obtain ⟨hx, hrest⟩ := List.cons.inj hxs
        have hown : (Span.mk s.pos s'.pos).of path = x := Option.some.inj hx
        have htook : took.map (fun m => m.span?.map (·.of path)) =
            (xs.drop (opensOf body)).map some := by
          rw [List.map_drop, ← hrest, List.map_append, ← hinner]
          exact (List.drop_left' (List.length_map _)).symm
        rw [List.all_cons, List.all_append, Bool.and_eq_true, Bool.and_eq_true] at hordered
        obtain ⟨hspan, -, hlater⟩ := hordered
        rw [ownOf, spelled, List.append_assoc, ← hspell _ htook hlater, ← hown,
          drop_span (of_decide_eq_true hspan)]

/-- At the end of a text that has no line break, nothing is left. -/
lemma after_eq_nil (hl : '\n' ∉ path) (h : s.IsOn path count marks)
    (he : t ∈ (Node.ofParts [.anchor .finalLineEnd]).results s) : t = s ∧ s.after = [] := by
  rw [Node.results_ofParts_singleton, Node.results] at he
  split at he
  · next hend =>
    refine ⟨List.mem_singleton.mp he, ?_⟩
    have hline : '\n' ∉ s.after := by
      rw [← h.text_eq] at hl
      exact fun hm => hl (List.mem_append_right _ hm)
    rw [Anchor.holds, Bool.or_eq_true, List.isEmpty_iff, beq_iff_eq] at hend
    rcases hend with hend | hend
    · exact hend
    · rw [hend] at hline
      exact absurd List.mem_cons_self hline
  · cases he

/-- A text that a regular expression of characters and groups matches is spelled by what the groups
took that are its items, if all groups took part. -/
theorem search_regained {r : Regex} {m : Match} {xs : List (List Char)}
    (hi : ∀ i ∈ items, i.isNested) (hp : readsParens (sourceOf items .bare))
    (hc : compile {} (String.ofList (sourceOf items .bare)) = .ok r) (hl : '\n' ∉ path)
    (hm : r.search path = some m) (hcross : m.isCrossed = false)
    (htexts : m.texts path = xs.map some) :
    xs.length = capturesOf items ∧ path = spelled items (ownOf items xs) := by
  obtain ⟨nodes, hbuilt, hroot, hcount, htrial⟩ := built_of_compile hi hp hc
  obtain ⟨e, he, rfl⟩ := results_of_search htrial hroot hm
  have hstart : (Path.start r.groupCount path).IsOn path r.groupCount [] :=
    ⟨rfl, rfl, List.length_replicate, List.nil_prefix⟩
  rw [Node.results_ofParts_append] at he
  obtain ⟨t, ht, hend⟩ := List.mem_flatMap.mp (List.mem_of_mem_head? he)
  obtain ⟨took, hlen, hon, hspell⟩ := drop_eq_spelled hbuilt rfl
    (Nat.le_of_eq ((Nat.zero_add _).trans hcount.symm)) hstart ht
  obtain ⟨rfl, hafter⟩ := after_eq_nil hl hon hend
  have htook : e.groups = took := by
    have hlength : took.length = e.groups.length := by
      rw [hon.keeps.length_eq, hcount, hlen]
    exact (List.IsPrefix.eq_of_length hon.keeps.begins hlength).symm
  rw [Path.isCrossed_eq_false, htook] at hcross
  rw [Match.texts, List.map_map, htook] at htexts
  refine ⟨?_, ?_⟩
  · have hlength := congrArg List.length htexts
    rw [List.length_map, List.length_map, hlen] at hlength
    exact hlength.symm
  · have hpath := hspell xs htexts hcross
    rwa [hon.drop_pos, hafter, List.append_nil] at hpath

end ActionRouting.Regex
