import ActionRouting.Proofs.Path.Given

/-! A path that is lost among several is not found by their pattern: the set that stands for their
last characters does not take its own. -/
namespace ActionRouting

namespace Text

/-- A run stays on one side of the end of the first plane, with the letters that stand for its
letters. -/
lemma folding_planes : ∀ r ∈ CaseRun.folding,
    r.first + r.stride * r.count ≤ 0x10000 ∨ 0x10000 ≤ r.first ∧ 0x10000 ≤ r.target := by
  decide +kernel

lemma folding_targets : ∀ r ∈ CaseRun.folding,
    0x10000 ≤ r.first ∨ r.target + r.stride * r.count ≤ 0x10000 := by
  decide +kernel

/-- What is taken for a character beyond the first plane is beyond it as well. -/
theorem lt_of_mem_caseVariants {c : Char} (hc : 0xFFFF < c.toNat) {n : Nat}
    (h : n ∈ caseVariants c) : 0xFFFF < n := by
  have hkey : 0xFFFF < foldKey c := by
    rw [foldKey_outside (by omega)]
    cases hl : CaseRun.lookup CaseRun.folding c.toNat with
    | none => exact hc
    | some m =>
      obtain ⟨r, hr, hi⟩ := List.exists_of_findSome?_eq_some hl
      have hplane := folding_planes r hr
      unfold CaseRun.image? at hi
      split at hi
      · obtain rfl := Option.some.inj hi
        rw [Option.getD_some]
        omega
      · cases hi
  rw [caseVariants, foldClass_outside (by omega)] at h
  rcases List.mem_cons.mp h with rfl | h
  · exact hkey
  · obtain ⟨r, hr, hp⟩ := List.mem_filterMap.mp h
    have hplane := folding_targets r hr
    unfold CaseRun.preimage? at hp
    split at hp
    · obtain rfl := Option.some.inj hp
      omega
    · cases hp

end Text

namespace Regex.Node

lemma mapM_setOf? {sets : List CharSet} (h : ∀ s ∈ sets, s.negated = false) :
    (sets.map fun s => [chars s]).mapM setOf? = some sets := by
  induction sets with
  | nil => rfl
  | cons s sets ih =>
    have hs : setOf? [chars s] = some s := by
      rw [setOf?, h s List.mem_cons_self, if_neg Bool.false_ne_true]
    rw [List.map_cons, List.mapM_cons, hs, ih fun t ht => h t (List.mem_cons_of_mem _ ht)]
    rfl

/-- Branches that differ in their last sets alone come to what they have in common and one set. -/
lemma partsOfChoice_common {before : List Node} {t : CharSet} {ts : List CharSet}
    (hb : ∀ n ∈ before, n.isSimple) (hn : ∀ u ∈ t :: ts, u.negated = false)
    (hd : ∃ u ∈ ts, u ≠ t) :
    partsOfChoice (before ++ [chars t]) (ts.map fun u => before ++ [chars u]) =
      before ++ [chars (merged t ts)] := by
  induction before with
  | nil =>
    obtain ⟨u, hu, hne⟩ := hd
    have hall : (ts.map fun u => [chars u]).all (·.head? == some (chars t)) = false := by
      rw [List.all_eq_false]
      refine ⟨_, List.mem_map.mpr ⟨u, hu, rfl⟩, ?_⟩
      simpa using hne
    have hsets := mapM_setOf? hn
    rw [List.nil_append, List.nil_append, partsOfChoice]
    change (if (_ && (ts.map fun u => [chars u]).all (·.head? == some (chars t))) = true then _
      else [choice ((t :: ts).map fun u => [chars u])]) = _
    rw [hall, Bool.and_false, if_neg Bool.false_ne_true, choice, hsets]
    rfl
  | cons n before ih =>
    have hall : (ts.map fun u => n :: before ++ [chars u]).all (·.head? == some n) := by
      rw [List.all_map, List.all_eq_true]
      intro u _
      simp
    have htails : (ts.map fun u => n :: before ++ [chars u]).map List.tail =
        ts.map fun u => before ++ [chars u] := by
      rw [List.map_map]
      rfl
    rw [List.cons_append, partsOfChoice, hb n List.mem_cons_self, hall, Bool.and_self, if_pos rfl,
      htails, ih fun m hm => hb m (List.mem_cons_of_mem _ hm)]
    rfl

end Regex.Node

namespace Path

open Text Regex

variable {casing : Casing}

/-- The set that stands for the last characters of several paths does not take a first of them that
is lost. -/
lemma not_contains_merged {c : Char} {ds : List Char} (hd : ∃ d ∈ ds, d ≠ c)
    (hplane : planeEnd < c.toNat) (hne : lowerChar c ≠ c) (hlower : lowerChar c ∉ ds) :
    ¬ (Node.merged ⟨false, [.char c.toNat], .unicode, false⟩
      (ds.map fun d => ⟨false, [.char d.toNat], .unicode, false⟩)).contains c := by
  rw [merged_chars]
  generalize hmembers : (Member.char c.toNat :: ds.map fun d => .char d.toNat).eraseDups = members
  have hmem (m : Member) : m ∈ members ↔ m = .char c.toNat ∨ ∃ d ∈ ds, m = .char d.toNat := by
    rw [← hmembers, List.mem_eraseDups, List.mem_cons, List.mem_map]
    simp only [eq_comm]
  unfold CharSet.contains
  rw [Bool.false_bne]
  split
  · -- A set of one member would need all the characters to be one.
    next code hcode =>
    obtain ⟨d, hds, hdc⟩ := hd
    have hc : Member.char c.toNat = .char code := by
      rw [← List.mem_singleton, ← hcode]
      exact (hmem _).mpr (.inl rfl)
    have hd : Member.char d.toNat = .char code := by
      rw [← List.mem_singleton, ← hcode]
      exact (hmem _).mpr (.inr ⟨d, hds, rfl⟩)
    have := Member.char.inj (hd.trans hc.symm)
    exact absurd (Char.toNat_inj.mp this) hdc
  · rw [List.any_eq_true]
    rintro ⟨m, hm, hcontains⟩
    have hchar {d : Char} (h : (Member.char d.toNat).contains .unicode false c) :
        d = lowerChar c := by
      rw [Member.contains] at h
      split at h
      · exact (Char.toNat_inj.mp (beq_iff_eq.mp h)).symm
      · have := lt_of_mem_caseVariants hplane (List.contains_iff_mem.mp h)
        exact absurd this ‹_›
    rcases (hmem m).mp hm with rfl | ⟨d, hds, rfl⟩
    · exact hne (hchar hcontains).symm
    · exact hlower (hchar hcontains ▸ hds)

lemma branchesOf_plains (casing : Casing) (count : Nat) (us : List (List Char)) :
    branchesOf casing count (us.map (·.map .plain)) = us.map (·.map (charNode casing)) := by
  induction us generalizing count with
  | nil => rfl
  | cons u us ih =>
    rw [List.map_cons, branchesOf, ← List.append_nil (u.map Piece.plain), nodesOf_plains, nodesOf,
      List.append_nil, ih, List.map_cons]

/-- A path that is lost among several is not found. -/
lemma search_lost {strict : Bool} {text u : List Char} {c : Char} {ds : List Char} {count : Nat}
    (hd : ∃ d ∈ ds, d ≠ c) (hplane : planeEnd < c.toNat) (hne : lowerChar c ≠ c)
    (hlower : lowerChar c ∉ ds) :
    (matcherOf true strict text [.group 1 (.ofParts (Node.ofBranches (branchesOf .unicode 1
      ((u ++ [c]).map .plain :: ds.map fun d => (u ++ [d]).map .plain))))] count).search
        (u ++ [c]) = none := by
  let setOf (d : Char) : CharSet := ⟨false, [.char d.toNat], .unicode, false⟩
  have hbranches : branchesOf .unicode 1
      ((u ++ [c]).map .plain :: ds.map fun d => (u ++ [d]).map .plain) =
        (u.map (charNode .unicode) ++ [.chars (setOf c)]) ::
          (ds.map setOf).map fun t => u.map (charNode .unicode) ++ [.chars t] := by
    have := branchesOf_plains .unicode 1 ((u ++ [c]) :: ds.map fun d => u ++ [d])
    simpa [Function.comp_def, charNode, setOf] using this
  have hparts : Node.ofBranches ((u.map (charNode .unicode) ++ [.chars (setOf c)]) ::
      (ds.map setOf).map fun t => u.map (charNode .unicode) ++ [.chars t]) =
        u.map (charNode .unicode) ++ [.chars (Node.merged (setOf c) (ds.map setOf))] := by
    have hsimple : ∀ n ∈ u.map (charNode .unicode), n.isSimple := by
      intro n hn
      obtain ⟨d, -, rfl⟩ := List.mem_map.mp hn
      rfl
    have hpositive : ∀ t ∈ setOf c :: ds.map setOf, t.negated = false := by
      rw [← List.map_cons]
      intro t ht
      obtain ⟨d, -, rfl⟩ := List.mem_map.mp ht
      rfl
    have hother : ∃ t ∈ ds.map setOf, t ≠ setOf c := by
      obtain ⟨d, hds, hdc⟩ := hd
      refine ⟨setOf d, List.mem_map.mpr ⟨d, hds, rfl⟩, ?_⟩
      simpa [setOf, Char.toNat_inj] using hdc
    rw [← Node.partsOfChoice_common hsimple hpositive hother]
    cases ds with
    | nil => simp at hd
    | cons d ds => rfl
  have hafter : ((start count (u ++ [c])).enter 1).after = u ++ [c] := rfl
  refine search_matcherOf_eq_none ((congrArg (List.flatMap _) ?_).trans List.flatMap_nil)
  rw [Node.results_ofParts_singleton, Node.results, hbranches, hparts, results_plains _ hafter,
    Node.results_ofParts_singleton, Node.results_chars _ _ c [] (Cursor.past_after hafter),
    if_neg (not_contains_merged hd hplane hne hlower)]
  rfl

lemma name_ne_nil_of_cuts {before : Option Char} {cs : List Char} {ps : List (Piece Param)}
    (h : Param.scanner.Cuts before cs ps) {p : Param} (hp : .token p ∈ ps) : p.name ≠ [] := by
  induction h with
  | nil => cases hp
  | plain _ _ ih => exact ih (by simpa using hp)
  | token hr _ ih =>
    rcases List.mem_cons.mp hp with he | hp
    · cases he
      exact (Param.read?_eq_some hr).1.name_ne_nil
    · exact ih hp

lemma eq_plains {ps : List (Piece Param)} (h : ∀ p, .token p ∉ ps) (f : Param → List Char) :
    ps = (textOf f ps).map .plain := by
  induction ps with
  | nil => rfl
  | cons q ps ih =>
    cases q with
    | plain c => exact congrArg _ (ih fun p hp => h p (List.mem_cons_of_mem _ hp))
    | token p => exact absurd List.mem_cons_self (h p)

/-- A path with no colon before its last character has no parameter. -/
lemma pathPieces_eq_plains {segments : List Segment} (hg : ∀ g ∈ segments, g.isValid)
    {u : List Char} {c : Char} (hw : writePath segments = u ++ [c]) (hu : ':' ∉ u) :
    pathPieces segments = (u ++ [c]).map .plain := by
  have hcuts := Param.scanner_isFaithful.cuts none (writePath segments)
  rw [← Scanner.pieces, pieces_path (isOver_of_isValid hg)] at hcuts
  have hno (p : Param) : .token p ∉ pathPieces segments := by
    intro hp
    obtain ⟨before, rest, hsplit⟩ := List.append_of_mem hp
    obtain ⟨a, b, hwrite⟩ : ∃ a b, p.write = a ++ ':' :: (p.name ++ b) :=
      ⟨(if p.slash then ['/'] else []) ++ if p.dot then ['.'] else [],
        p.capture.getD [] ++ ((if p.optional then ['?'] else []) ++ if p.star then ['*'] else []),
        by simp [Param.write]⟩
    -- The colon of the parameter has its name after it, so it is not the last character.
    have hne : p.name ++ (b ++ textOf Param.write rest) ≠ [] := fun h =>
      name_ne_nil_of_cuts hcuts hp (List.append_eq_nil_iff.mp h).1
    obtain ⟨t, d, htail⟩ : ∃ t d, p.name ++ (b ++ textOf Param.write rest) = t ++ [d] :=
      ⟨_, _, (List.dropLast_concat_getLast hne).symm⟩
    have hall : u ++ [c] = textOf Param.write before ++ (a ++ ':' :: t) ++ [d] := by
      rw [← hw, writePath_eq_textOf hg, hsplit, textOf, List.flatMap_append, List.flatMap_cons]
      change textOf Param.write before ++ (p.write ++ textOf Param.write rest) = _
      rw [hwrite, List.append_assoc a, List.cons_append, List.append_assoc p.name, htail]
      simp
    have hinit := (List.append_inj' hall rfl).1
    exact hu (by rw [hinit]; simp)
  have := eq_plains hno Param.write
  rwa [← writePath_eq_textOf hg, hw] at this

lemma map_pathPieces_eq_plains {rest : List (List Segment)}
    (hg : ∀ path ∈ rest, ∀ g ∈ path, g.isValid) {u ds : List Char} (hu : ':' ∉ u)
    (hw : rest.map writePath = ds.map fun d => u ++ [d]) :
    rest.map pathPieces = ds.map fun d => (u ++ [d]).map .plain := by
  induction rest generalizing ds with
  | nil =>
    cases ds with
    | nil => rfl
    | cons d ds => cases hw
  | cons path rest ih =>
    cases ds with
    | nil => cases hw
    | cons d ds =>
      obtain ⟨hfirst, hrest⟩ := List.cons.inj hw
      have hpath := pathPieces_eq_plains (hg path List.mem_cons_self) hfirst hu
      rw [List.map_cons, List.map_cons, hpath,
        ih (fun path hp => hg path (List.mem_cons_of_mem _ hp)) hrest]

/-- The pattern of a specification that loses its first path does not find it. -/
theorem search_filled_of_loses {caseSensitive strict : Bool} {segments : List Segment}
    {spec : PathSpec} {pattern : Pattern} {named : OrderedMap Value} (hb : Builds segments spec)
    (hc : Pattern.compile caseSensitive strict spec = .ok pattern)
    (hl : Loses caseSensitive spec) :
    pattern.matcher.search (filled (quoted named) (pathPieces segments)) = none := by
  cases hb with
  | text => exact hl.elim
  | @alternatives rest hg =>
    obtain ⟨rfl, u, c, ds, hu, hw, hws, hd, hplane, hne, hlower⟩ := loses_alternatives.mp hl
    have hfirst := pathPieces_eq_plains (hg segments List.mem_cons_self) hw hu
    have hpaths : (segments :: rest).map pathPieces =
        (u ++ [c]).map .plain :: ds.map fun d => (u ++ [d]).map .plain := by
      rw [List.map_cons, hfirst, map_pathPieces_eq_plains
        (fun path hp => hg path (List.mem_cons_of_mem _ hp)) hu hws]
    rw [compile_joint false strict (fun path hp => isOver_of_isValid (hg path hp)), hpaths] at hc
    cases hc
    rw [hfirst, filled_plains]
    exact search_lost hd hplane hne hlower

end Path

end ActionRouting
