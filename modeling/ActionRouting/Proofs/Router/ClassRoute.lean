import ActionRouting.Proofs.Path.AtomReadings
import ActionRouting.Proofs.Router.OneMoreRoute
import ActionRouting.Proofs.Router.SoleRoute

/-! Classes of characters among whole segments. A class takes one character, and has no capture
group. What its members stand for outside of classes is counted all the same: each star, and each
parenthesis that opens a group, takes the place of a parameter, so that the names behind the class
are given the texts of later parameters, or none. -/
namespace ActionRouting

namespace Path

open Text Regex

/-- A class of several members takes a character up to case. A member beyond the first plane is
compared with the character's form for comparison, unless it is the only one. -/
def Holds (casing : Casing) (u : List Char) (d : Char) : Prop :=
  ∃ c ∈ u, if planeEnd < c.toNat ∧ u.any (· != c) then casing.normal d = c
    else c.toNat ∈ casing.variants d

variable {casing : Casing} {as bs : List Atom} {u path : List Char} {c d : Char}

/-- A class with one member, however often it is written. -/
lemma contains_setOf_same (hc : c ∈ u) (h : ∀ c' ∈ u, c' = c) :
    (setOf casing u).contains d ↔ Holds casing u d := by
  have hmembers : (u.map fun c => Member.char c.toNat).eraseDups = [.char c.toNat] := by
    refine eraseDups_of_forall_eq (List.ne_nil_of_mem (List.mem_map_of_mem hc)) fun m hm => ?_
    obtain ⟨c', hc', rfl⟩ := List.mem_map.mp hm
    rw [h c' hc']
  have hone (c' : Char) (hc' : c' ∈ u) : ¬ (planeEnd < c'.toNat ∧ u.any (· != c')) := by
    rintro ⟨-, hany⟩
    obtain ⟨c'', hc'', hne⟩ := List.any_eq_true.mp hany
    exact bne_iff_ne.mp hne ((h c'' hc'').trans (h c' hc').symm)
  rw [setOf, hmembers, contains_char]
  constructor
  · intro hd
    exact ⟨c, hc, by rwa [if_neg (hone c hc)]⟩
  · rintro ⟨c', hc', hd⟩
    rw [if_neg (hone c' hc'), h c' hc'] at hd
    exact hd

/-- A class with two members at the least. -/
lemma contains_setOf_other {c' : Char} (hc : c ∈ u) (hc' : c' ∈ u) (hne : c' ≠ c) :
    (setOf casing u).contains d ↔ Holds casing u d := by
  have hmem (c : Char) (h : c ∈ u) :
      Member.char c.toNat ∈ (u.map fun c => Member.char c.toNat).eraseDups := by
    rw [List.mem_eraseDups]
    exact List.mem_map_of_mem h
  have hother (a : Char) : u.any (· != a) = true := by
    by_cases ha : c = a
    · exact List.any_eq_true.mpr ⟨c', hc', bne_iff_ne.mpr (ha ▸ hne)⟩
    · exact List.any_eq_true.mpr ⟨c, hc, bne_iff_ne.mpr ha⟩
  have hcontains : (setOf casing u).contains d =
      ((u.map fun c => Member.char c.toNat).eraseDups.any (·.contains casing false d)) := by
    simp only [setOf, CharSet.contains, Bool.false_bne]
    split
    · next code heq =>
      have h₁ := hmem c hc
      have h₂ := hmem c' hc'
      rw [heq, List.mem_singleton, Member.char.injEq] at h₁ h₂
      exact absurd (Char.toNat_inj.mp (h₂.trans h₁.symm)) hne
    · rfl
  rw [hcontains, List.any_eq_true]
  simp only [List.mem_eraseDups, List.mem_map, exists_exists_and_eq_and, Holds]
  refine exists_congr fun a => and_congr_right fun ha => ?_
  rw [Member.contains]
  by_cases hp : planeEnd < a.toNat
  · simp only [hp, hother a, and_self, if_true, beq_iff_eq, Char.toNat_inj]
  · simp only [hp, false_and, if_false, List.contains_iff_mem]

/-- What a class takes. -/
lemma contains_setOf : (setOf casing u).contains d ↔ Holds casing u d := by
  cases u with
  | nil => simp [setOf, Holds, CharSet.contains]
  | cons c u =>
    by_cases h : ∀ c' ∈ c :: u, c' = c
    · exact contains_setOf_same List.mem_cons_self h
    · obtain ⟨c', hc', hne⟩ : ∃ c' ∈ c :: u, c' ≠ c := by
        simpa only [not_forall, exists_prop] using h
      exact contains_setOf_other List.mem_cons_self hc' hne

/-- A text is read around a class: some atoms before it, one character that it takes, and some atoms
behind it. -/
def Encloses (casing : Casing) (strict : Bool) (as : List Atom) (u : List Char) (bs : List Atom)
    (xs : List (List Char)) (d : Char) (ys : List (List Char)) (path : List Char) : Prop :=
  ∃ v w ending, path = v ++ d :: w ++ ending ∧ ReadsAs casing as xs v ∧ Holds casing (spread u) d ∧
    ReadsAs casing bs ys w ∧ IsEndingOf strict ending

lemma finds_class {strict : Bool} {zs : List (List Char)} :
    Finds casing strict (as ++ .set u :: bs) zs path ↔
      ∃ xs d ys, zs = xs ++ ys ∧ Encloses casing strict as u bs xs d ys path := by
  constructor
  · rintro ⟨w, ending, rfl, hreads, hending⟩
    obtain ⟨xs, ys, v, rest, rfl, rfl, has, hrest⟩ := readsAs_append.mp hreads
    obtain ⟨d, w, rfl, hd, hbs⟩ := (readsAs_one rfl).mp hrest
    exact ⟨xs, d, ys, rfl, v, w, ending, rfl, has, contains_setOf.mp hd, hbs, hending⟩
  · rintro ⟨xs, d, ys, rfl, v, w, ending, rfl, has, hd, hbs, hending⟩
    have hrest : ReadsAs casing (.set u :: bs) ys (d :: w) :=
      (readsAs_one rfl).mpr ⟨d, w, rfl, contains_setOf.mpr hd, hbs⟩
    exact ⟨v ++ d :: w, ending, rfl, readsAs_append.mpr ⟨xs, ys, v, d :: w, rfl, rfl, has, hrest⟩,
      hending⟩

/-- Around a class a text without the end of a line gives one text for each parameter. -/
lemma Encloses.unique {strict : Bool} {xs ys xs' ys' : List (List Char)} {d' : Char}
    (hs : isSegmented (as ++ .set u :: bs)) (hl : '\n' ∉ path)
    (h : Encloses casing strict as u bs xs d ys path)
    (h' : Encloses casing strict as u bs xs' d' ys' path) : xs' = xs ∧ ys' = ys := by
  have hjoint : xs' ++ ys' = xs ++ ys := Finds.unique hs hl
    (finds_class.mpr ⟨xs', d', ys', rfl, h'⟩) (finds_class.mpr ⟨xs, d, ys, rfl, h⟩)
  obtain ⟨v, w, ending, -, has, -⟩ := h
  obtain ⟨v', w', ending', -, has', -⟩ := h'
  exact List.append_inj hjoint (has'.length_eq.trans has.length_eq.symm)

end Path

namespace Router

open ActionRouting.Path

/-- A path of whole segments with a class in it is compiled. It matches what is read around the
class, of which the class takes one character. Whatever router leads a request to it answers with
the decoded texts of the parameters, given to the slots in their order: those of the parameters
before the class, those of its own stars and opened groups, and those of the parameters behind it.
So each name is given the text of its own segment if the class has no star and opens no group. -/
theorem compile_class (caseSensitive strict : Bool) {as bs : List Atom} {u : List Char}
    (h : isAtomic (as ++ .set u :: bs)) (hs : ∀ u, Atom.set u ∉ as ++ bs) :
    ∃ pattern, Pattern.compile caseSensitive strict
        (.text (String.ofList (atomPath as ++ '[' :: u ++ ']' :: atomPath bs))) = .ok pattern ∧
      pattern.slots = namedSlots as ++ openings u ++ namedSlots bs ∧
      (∀ path, (pattern.matcher.search path).isSome ↔
        ∃ xs d ys, Encloses (casingOf !caseSensitive) strict as u bs xs d ys path) ∧
      ∀ (r : Router) (name path : String) (v : Verb) (e : RouteEntry) (m : Regex.Match),
        Verb.ofName? (Text.upper name) = some v → r.found v path = some (e, m) →
        e.pattern = pattern → e.kind ≠ .fallback →
        ∃ xs d ys matched,
          Encloses (casingOf !caseSensitive) strict as u bs xs d ys (stripQuery path.toList) ∧
          ('\n' ∉ stripQuery path.toList → ∀ xs' d' ys', Encloses (casingOf !caseSensitive) strict
            as u bs xs' d' ys' (stripQuery path.toList) → xs' = xs ∧ ys' = ys) ∧
          r.dispatch (.text name) (.text path) = .ok (.matched matched) ∧ matched.entry = e ∧
          matched.args = (xs ++ ys).map (fun x => some (decoded x)) ∧
          matched.params = paramsOf pattern.slots matched.args ∧
          (openings u = [] → matched.params = .ofPairs
            ((holeNames as ++ holeNames bs).zip ((xs ++ ys).map decoded))) := by
  have hpath : atomPath as ++ '[' :: u ++ ']' :: atomPath bs = atomPath (as ++ .set u :: bs) := by
    simp [atomPath, Atom.write]
  have hslots : atomSlots (as ++ .set u :: bs) = namedSlots as ++ openings u ++ namedSlots bs := by
    rw [← atomSlots_eq fun u hu => hs u (List.mem_append_left _ hu),
      ← atomSlots_eq fun u hu => hs u (List.mem_append_right _ hu)]
    simp [atomSlots, Atom.slots]
  refine ⟨atomPattern caseSensitive strict (as ++ .set u :: bs), ?_, hslots, fun path => ?_, ?_⟩
  · rw [hpath]
    exact compile_atoms caseSensitive strict h
  · constructor
    · intro hsome
      obtain ⟨m, hm⟩ := Option.isSome_iff_exists.mp hsome
      obtain ⟨zs, hfinds, -⟩ := finds_of_search hm
      obtain ⟨xs, d, ys, -, henc⟩ := finds_class.mp hfinds
      exact ⟨xs, d, ys, henc⟩
    · rintro ⟨xs, d, ys, henc⟩
      exact search_isSome_of_finds (finds_class.mpr ⟨xs, d, ys, rfl, henc⟩)
  · rintro r name path v e m hv hf hp hk
    have hm := search_of_found hf
    rw [hp] at hm
    obtain ⟨zs, hfinds, hcross, htexts⟩ := finds_of_search hm
    obtain ⟨xs, d, ys, rfl, henc⟩ := finds_class.mp hfinds
    have hargs := decodeGroups_eq htexts
    have hsegmented := (Bool.and_eq_true_iff.mp h).2
    refine ⟨xs, d, ys, _, henc, fun hl xs' d' ys' henc' => henc.unique hsegmented hl henc',
      (dispatch_of_found hv hf hcross).trans (if_neg hk), rfl, hargs, ?_, fun ho => ?_⟩
    · rw [hp]
    · rw [hargs, hp]
      change paramsOf (atomSlots _) _ = _
      rw [hslots, ho, List.append_nil, namedSlots, namedSlots, ← List.map_append, paramsOf_named]

/-- A parenthesis in a class takes the place of the parameter behind it, whose name is then given
nothing. -/
theorem compile_class_paren : ∃ pattern r m,
    Pattern.compile false false (.text "/[(]/:x") = .ok pattern ∧
    pattern.slots = [{}, ⟨some "x", false⟩] ∧ (pattern.matcher.search "/(/7".toList).isSome ∧
    Router.route { config := {} } (.text "/[(]/:x") History.shower .null .null = .ok r ∧
    r.dispatch (.text "GET") (.text "/(/7") = .ok (.matched m) ∧ m.args = [some "7"] ∧
    m.params = [] := by
  obtain ⟨pattern, hcompile, hslots, hsearch, hmatched⟩ :=
    @compile_class false false [.char '/'] [.hole ['x']] ['('] (by decide) (by simp)
  have hpath : String.ofList (atomPath [.char '/'] ++ '[' :: ['('] ++
      ']' :: atomPath [.hole ['x']]) = "/[(]/:x" := by decide
  rw [hpath] at hcompile
  have hsome : (pattern.matcher.search "/(/7".toList).isSome := by
    refine (hsearch _).mpr ⟨[], '(', [['7']], ['/'], ['/', '7'], [], by decide, ?_, ?_, ?_, ?_⟩
    · exact .one rfl (by decide) .nil
    · exact ⟨'(', by decide, by decide⟩
    · exact .hole (by decide) (by decide) .nil
    · exact .inl (by simp)
  obtain ⟨r, hr, hanswers⟩ := exists_of_any (x := Router.route { config := {} } (.text "/[(]/:x")
    History.shower .null .null) (p := fun r => r.answers "/(/7" fun m => m.args == [some "7"])
    (by decide +kernel)
  obtain ⟨m, hm, hargs⟩ := exists_of_answers hanswers
  obtain ⟨g, hprepared, rfl⟩ := route_eq_ok hr
  obtain ⟨hverb, -, -, -, hcompiled⟩ := prepare_eq_ok hprepared
  obtain rfl : g.pattern = pattern := Except.ok.inj (hcompiled.symm.trans hcompile)
  obtain ⟨found, hfound⟩ := Option.isSome_iff_exists.mp hsome
  have hget : g.verb = .get := (Except.ok.inj hverb).symm
  have hled : (({ config := {} } : Router).add g).found .get "/(/7" =
      some (g.entry g.verb .explicit, found) := by
    have hled : (({ config := {} } : Router).add g).found g.verb "/(/7" = _ := found_sole "/(/7"
    rw [Path.stripQuery_of_not_mem (by decide) (by decide), hfound] at hled
    rw [← hget]
    exact hled
  obtain ⟨xs, d, ys, m', -, -, hm', -, -, hparams, -⟩ :=
    hmatched _ "GET" "/(/7" .get _ _ (by decide) hled rfl (by simp [Registration.entry])
  obtain rfl : m = m' := by
    rw [hm] at hm'
    cases hm'
    rfl
  rw [beq_iff_eq] at hargs
  refine ⟨g.pattern, _, m, hcompile, hslots, hsome, hr, hm, hargs, ?_⟩
  rw [hparams, hargs, hslots]
  decide

end Router

end ActionRouting
