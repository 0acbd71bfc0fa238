import ActionRouting.Proofs.Path.Matching

/-! Matching several paths of segments, of which any may match: the first is found in its own text.
Paths that differ in their last characters alone are compared by a set, which loses a capital letter
beyond the first plane. -/
namespace ActionRouting

namespace Text

/-- The lower case of a character beyond the first plane is beyond it as well. -/
lemma lowering_beyond : ∀ r ∈ CaseRun.lowering, r.first + r.stride * r.count ≤ 0x10000 ∨
    0x10000 ≤ r.target ∧ r.target + r.stride * r.count ≤ 0x110000 := by
  decide +kernel

lemma toNat_lowerChar_beyond {c : Char} (hc : 0xFFFF < c.toNat) : 0xFFFF < (lowerChar c).toNat := by
  have hascii : isAscii c = false := by
    simp [isAscii]
    omega
  rw [lowerChar, hascii, if_neg Bool.false_ne_true, if_neg (by omega)]
  cases hl : CaseRun.lookup CaseRun.lowering c.toNat with
  | none => exact hc
  | some n =>
    obtain ⟨r, hr, hi⟩ := List.exists_of_findSome?_eq_some hl
    have hrun := lowering_beyond r hr
    unfold CaseRun.image? at hi
    split at hi
    · next hin =>
      obtain rfl := Option.some.inj hi
      have hlt : 0xFFFF < r.target + (c.toNat - r.first) ∧
          r.target + (c.toNat - r.first) < 0x110000 := by omega
      have hv : Nat.isValidChar (r.target + (c.toNat - r.first)) := .inr ⟨by omega, hlt.2⟩
      have hn : (Char.ofNat (r.target + (c.toNat - r.first))).toNat =
          r.target + (c.toNat - r.first) := by
        rw [Char.ofNat, dif_pos hv]
        rfl
      rw [Option.map_some, Option.getD_some, hn]
      exact hlt.1
    · cases hi

end Text

namespace Path

open Text Regex

/-- The first of several paths differs from the others in its last character alone, which is beyond
the first plane and has a lower case that none of the others ends in. -/
def IsLost (first : List Char) (rest : List (List Char)) : Prop :=
  ∃ (u : List Char) (c : Char) (ds : List Char), ':' ∉ u ∧ first = u ++ [c] ∧
    rest = ds.map (fun d => u ++ [d]) ∧ (∃ d ∈ ds, d ≠ c) ∧ planeEnd < c.toNat ∧
    lowerChar c ≠ c ∧ lowerChar c ∉ ds

variable {casing : Casing} {b : Bool} {ps : List (Piece Param)}

/-- A set takes a character that one of its members takes. -/
lemma contains_of_member {set : CharSet} {c : Char} {m : Member} (hn : set.negated = false)
    (hm : m ∈ set.members) (hc : m.contains set.casing set.ascii c)
    (hone : ∀ code, set.members = [.char code] → code ∈ set.casing.variants c) :
    set.contains c := by
  unfold CharSet.contains
  rw [hn, Bool.false_bne]
  split
  · next code hs => exact List.contains_iff_mem.mpr (hone code hs)
  · exact List.any_eq_true.mpr ⟨m, hm, hc⟩

lemma contains_self {casing : Casing} {c : Char}
    (h : c.toNat ≤ planeEnd ∨ casing.normal c = c) :
    (Member.char c.toNat).contains casing false c := by
  rw [Member.contains]
  split
  · rw [h.resolve_left (by omega)]
    exact beq_self_eq_true _
  · exact List.contains_iff_mem.mpr (casing.mem_variants c)

/-- The set that stands for several characters. -/
lemma merged_chars (casing : Casing) (c : Char) (ds : List Char) :
    Node.merged ⟨false, [.char c.toNat], casing, false⟩
        (ds.map fun d => ⟨false, [.char d.toNat], casing, false⟩) =
      ⟨false, (Member.char c.toNat :: ds.map fun d => .char d.toNat).eraseDups, casing, false⟩ := by
  have hds : (ds.map fun d => CharSet.mk false [.char d.toNat] casing false).flatMap
      CharSet.members = ds.map fun d => Member.char d.toNat := by
    rw [List.flatMap_map]
    exact List.map_eq_flatMap.symm
  rw [Node.merged, List.flatMap_cons, hds]
  rfl

/-- The set that stands for the last characters of several paths takes the first of them, unless it
is lost. -/
lemma contains_merged {c : Char} {ds : List Char}
    (h : b = true → (∃ d ∈ ds, d ≠ c) → planeEnd < c.toNat → lowerChar c ≠ c → lowerChar c ∈ ds) :
    (Node.merged ⟨false, [.char c.toNat], casingOf b, false⟩
      (ds.map fun d => ⟨false, [.char d.toNat], casingOf b, false⟩)).contains c := by
  rw [merged_chars]
  generalize hmembers : (Member.char c.toNat :: ds.map fun d => .char d.toNat).eraseDups = members
  have hfirst : Member.char c.toNat ∈ members := by
    rw [← hmembers, List.mem_eraseDups]
    exact List.mem_cons_self
  have hone (code : Nat) (hs : members = [.char code]) : code ∈ (casingOf b).variants c := by
    rw [hs, List.mem_singleton, Member.char.injEq] at hfirst
    rw [← hfirst]
    exact (casingOf b).mem_variants c
  by_cases hc : c.toNat ≤ planeEnd ∨ (casingOf b).normal c = c
  · exact contains_of_member rfl hfirst (contains_self hc) hone
  · obtain ⟨hplane, hnormal⟩ := not_or.mp hc
    have hb : b = true := by
      cases b with
      | true => rfl
      | false => exact absurd rfl hnormal
    subst hb
    by_cases hd : ∃ d ∈ ds, d ≠ c
    · have hlower : lowerChar c ∈ ds := h rfl hd (by omega) hnormal
      refine contains_of_member rfl (m := .char (lowerChar c).toNat) ?_ ?_ hone
      · rw [← hmembers, List.mem_eraseDups]
        exact List.mem_cons_of_mem _ (List.mem_map.mpr ⟨_, hlower, rfl⟩)
      · have hbeyond := toNat_lowerChar_beyond (c := c) (by rw [planeEnd] at hplane; omega)
        rw [Member.contains, if_pos (by rw [planeEnd]; exact hbeyond)]
        exact beq_self_eq_true _
    · have hsame : members = [.char c.toNat] := by
        have hall : (ds.map fun d => Member.char d.toNat).filter
            (fun m => !m == Member.char c.toNat) = [] := by
          rw [List.filter_eq_nil_iff]
          intro m hm
          obtain ⟨d, hdm, rfl⟩ := List.mem_map.mp hm
          have : d = c := by_contra fun hne => hd ⟨d, hdm, hne⟩
          simp [this]
        rw [← hmembers, List.eraseDups_cons, hall]
        rfl
      rw [CharSet.contains, Bool.false_bne, hsame]
      exact List.contains_iff_mem.mpr ((casingOf true).mem_variants c)

/-- Parts without parameters are characters. -/
lemma plains_of_isSimple {count : Nat} (h : ∀ n ∈ nodesOf casing count ps, n.isSimple) :
    ∃ cs : List Char, ps = cs.map .plain ∧ nodesOf casing count ps = cs.map (charNode casing) := by
  induction ps generalizing count with
  | nil => exact ⟨[], rfl, rfl⟩
  | cons q ps ih =>
    cases q with
    | plain c =>
      obtain ⟨cs, rfl, hn⟩ := ih fun n hn => h n (List.mem_cons_of_mem _ hn)
      exact ⟨c :: cs, rfl, congrArg _ hn⟩
    | token p =>
      exfalso
      have hmem : ∃ n ∈ p.nodes casing (count + 1), n.isSimple = false := by
        unfold Param.nodes
        split
        · exact ⟨_, List.mem_singleton_self _, rfl⟩
        · exact ⟨p.captureNode casing (count + 1), by simp [Param.presentNodes], rfl⟩
      obtain ⟨n, hn, hs⟩ := hmem
      have := h n (List.mem_append_left _ hn)
      rw [hs] at this
      cases this

lemma charNode_injective : Function.Injective (charNode casing) := by
  intro c d h
  simpa [charNode, Char.toNat_inj] using h

/-- A character at the end of some others. -/
lemma plains_concat {count : Nat} {before : List Node} {t : CharSet}
    (hb : ∀ n ∈ before, n.isSimple) (h : nodesOf casing count ps = before ++ [.chars t]) :
    ∃ u c, ps = (u ++ [c]).map .plain ∧ before = u.map (charNode casing) ∧
      t = ⟨false, [.char c.toNat], casing, false⟩ := by
  have hs : ∀ n ∈ nodesOf casing count ps, n.isSimple := by
    intro n hn
    rw [h] at hn
    rcases List.mem_append.mp hn with hn | hn
    · exact hb n hn
    · rw [List.mem_singleton.mp hn]
      rfl
  obtain ⟨cs, rfl, hcs⟩ := plains_of_isSimple hs
  rw [hcs, List.map_eq_append_iff] at h
  obtain ⟨u, l, rfl, hu, hl⟩ := h
  obtain ⟨c, rfl, hc⟩ := List.map_eq_singleton_iff.mp hl
  exact ⟨u, c, rfl, hu.symm, (Node.chars.inj hc).symm⟩

/-- Branches that differ in their last characters alone. -/
lemma plains_branches {count : Nat} {u : List Char} {ts : List CharSet}
    {paths : List (List (Piece Param))}
    (h : branchesOf casing count paths =
      ts.map fun t => u.map (charNode casing) ++ [.chars t]) :
    ∃ ds : List Char, paths = ds.map (fun d => (u ++ [d]).map .plain) ∧
      ts = ds.map fun d => ⟨false, [.char d.toNat], casing, false⟩ := by
  induction paths generalizing count ts with
  | nil =>
    cases ts with
    | nil => exact ⟨[], rfl, rfl⟩
    | cons t ts => cases h
  | cons ps paths ih =>
    cases ts with
    | nil => cases h
    | cons t ts =>
      rw [branchesOf, List.map_cons, List.cons.injEq] at h
      have hsimple : ∀ n ∈ u.map (charNode casing), n.isSimple := by
        intro n hn
        obtain ⟨c, -, rfl⟩ := List.mem_map.mp hn
        rfl
      obtain ⟨v, d, rfl, hv, rfl⟩ := plains_concat hsimple h.1
      obtain rfl := (List.map_inj_right fun c d => charNode_injective.eq_iff.mp).mp hv
      obtain ⟨ds, rfl, rfl⟩ := ih h.2
      exact ⟨d :: ds, rfl, rfl⟩

/-- A set among the parts of a path stands for a character. -/
lemma chars_of_isSimple {count : Nat} {n : Node} (h : n ∈ nodesOf casing count ps)
    (hs : n.isSimple) : ∃ t, n = .chars t := by
  induction ps generalizing count with
  | nil => cases h
  | cons q ps ih =>
    cases q with
    | plain c =>
      rcases List.mem_cons.mp h with rfl | h
      · exact ⟨_, rfl⟩
      · exact ih h
    | token p =>
      rcases List.mem_append.mp h with h | h
      · unfold Param.nodes at h
        split at h
        · rw [List.mem_singleton.mp h] at hs
          cases hs
        · simp only [Param.presentNodes, List.mem_append, List.mem_singleton] at h
          rcases h with h | h | rfl
          · split at h
            · exact ⟨_, List.mem_singleton.mp h⟩
            · cases h
          · split at h
            · exact ⟨_, List.mem_singleton.mp h⟩
            · cases h
          · cases hs
      · exact ih h

variable {value : List Char → List Char}

/-- The first of several paths is preferred, unless it is lost. -/
lemma results_branches {s : Cursor} {rest : List (List (Piece Param))}
    (hs : s.after = filled value ps)
    (hlost : ∀ (u : List Char) (c : Char) (ds : List Char), ps = (u ++ [c]).map .plain →
      rest = ds.map (fun d => (u ++ [d]).map .plain) → b = true → (∃ d ∈ ds, d ≠ c) →
      planeEnd < c.toNat → lowerChar c ≠ c → lowerChar c ∈ ds) :
    ∃ others, (Node.ofParts (Node.ofBranches (branchesOf (casingOf b) 1 (ps :: rest)))).results s =
      (Node.ofParts (nodesOf (casingOf b) 1 ps)).results s ++ others := by
  cases rest with
  | nil => exact ⟨[], by rw [List.append_nil]; rfl⟩
  | cons ps' rest =>
    refine Node.results_partsOfChoice (fun n hn => chars_of_isSimple hn) ?_
    intro before t ts d hb hfirst hrest hd ht
    obtain ⟨u, c, rfl, rfl, rfl⟩ := plains_concat hb hfirst
    obtain ⟨ds, hds, rfl⟩ := plains_branches hrest
    rw [hs, filled_plains, List.length_map, List.getElem?_concat_length] at hd
    obtain rfl := Option.some.inj hd
    exact contains_merged (hlost u _ ds rfl hds)

/-- Of several paths the first is found in its own text, unless it is lost: its parameters take
their values, and those of the others take nothing. -/
theorem search_joint (strict : Bool) (text : List Char) {rest : List (List (Piece Param))}
    (ht : IsTight (casingOf b) value ps) (k : Nat)
    (hlost : ∀ (u : List Char) (c : Char) (ds : List Char), ps = (u ++ [c]).map .plain →
      rest = ds.map (fun d => (u ++ [d]).map .plain) → b = true → (∃ d ∈ ds, d ≠ c) →
      planeEnd < c.toNat → lowerChar c ≠ c → lowerChar c ∈ ds) :
    ∃ m t, (matcherOf b strict text
        [.group 1 (.ofParts (Node.ofBranches (branchesOf (casingOf b) 1 (ps :: rest))))]
        (holesOf ps + k + 1)).search (filled value ps) = some m ∧ m.isCrossed = false ∧
      m.texts (filled value ps) =
        some t :: ((valuesOf value ps).map some ++ List.replicate k none) := by
  let f := (Node.ofParts (endNodes (casingOf b) strict)).results
  let s := (start (holesOf ps + k + 1) (filled value ps)).enter 1
  let e := after value 1 ps s
  obtain ⟨others, ho⟩ := results_branches (s := s) rfl hlost
  obtain ⟨more, hmore⟩ := results_tight 1 (s := s) (f := fun s' => f (s'.leave 1))
    (fun s' h => (isEndingOf_of_results (s := s'.leave 1) h).isEnding) ht rfl
  have hend : (e.leave 1).after = [] := after_after 1 (by rw [List.append_nil]; rfl)
  have hresults : ((Node.ofParts [.group 1 (.ofParts (Node.ofBranches
      (branchesOf (casingOf b) 1 (ps :: rest))))]).results
      (start (holesOf ps + k + 1) (filled value ps))).flatMap f =
      e.leave 1 :: (more ++ others.flatMap fun s' => f (s'.leave 1)) := by
    have hlast : f (e.leave 1) = [e.leave 1] := results_endNodes strict hend
    rw [Node.results_ofParts_singleton, Node.results, List.flatMap_map]
    change List.flatMap (fun s' => f (s'.leave 1)) (Node.results _ s) = _
    rw [ho, List.flatMap_append, hmore, hlast]
    rfl
  have hentered : e.groups = [] ++ (⟨some 0, none⟩ : Mark) ::
      (marksOf value 0 ps ++ List.replicate k ({} : Mark)) := groups_after [⟨some 0, none⟩] k rfl
  have hgroups : (e.leave 1).groups = ⟨some 0, some e.pos⟩ ::
      (marksOf value 0 ps ++ List.replicate k ({} : Mark)) := groups_leave hentered
  refine ⟨_, (Span.mk 0 e.pos).of (filled value ps), search_matcherOf hresults, ?_, ?_⟩
  · rw [hgroups]
    refine isCrossed_eq_false.mpr ?_
    rw [List.all_cons, List.all_append, isOrdered_marksOf, List.all_replicate]
    simp [isOrdered, Mark.span?]
  · have htexts : (marksOf value 0 ps).map (fun m => m.span?.map (·.of (filled value ps))) =
        (valuesOf value ps).map some := texts_marksOf [] [] (by simp)
    rw [Regex.Match.texts, hgroups, List.map_map, List.map_cons, List.map_append,
      List.map_replicate]
    exact congrArg (_ :: ·) (congrArg (· ++ _) htexts)

end Path

end ActionRouting
