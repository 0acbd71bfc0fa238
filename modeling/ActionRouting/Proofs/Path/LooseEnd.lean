import ActionRouting.Proofs.Path.AtomReadings
import ActionRouting.Proofs.Path.Bare

/-! The slash that may be left at the end of a path. What the parts of a bare path take does not
depend on what follows, so a path that may leave a slash is found in the texts in which the strict
one is found, and in these with one slash more. -/
namespace ActionRouting.Path

open Regex

variable {b : Bool} {text path : List Char} {nodes : List Node} {count : Nat}

/-- A strict path that has no end of a line in it is found where its parts take all of it. -/
lemma search_strict_isSome_iff (hn : (Node.ofParts nodes).isLocal) (hl : '\n' ∉ path) :
    ((matcherOf b true text nodes count).search path).isSome ↔
      ∃ e ∈ (Node.ofParts nodes).results (start count path), e.after = [] := by
  rw [search_isSome_iff]
  refine exists_congr fun e => and_congr_right fun he => ?_
  have hline : '\n' ∉ e.after := (Node.reaches_of_mem_results hn he).not_mem hl
  simp only [IsEndingOf, List.mem_cons, List.not_mem_nil, or_false]
  constructor
  · rintro ((h | h) | ⟨h, -⟩)
    · exact h
    · exact absurd (by rw [h]; simp) hline
    · cases h
  · exact fun h => .inl (.inl h)

/-- A path that may leave a slash is found in the texts in which the strict one is found, and in
these with a slash more. -/
theorem search_loose_isSome_iff (hn : (Node.ofParts nodes).isLocal) (hl : '\n' ∉ path) :
    ((matcherOf b false text nodes count).search path).isSome ↔
      ((matcherOf b true text nodes count).search path).isSome ∨
        ∃ q, path = q ++ ['/'] ∧ ((matcherOf b true text nodes count).search q).isSome := by
  have hslash {q : List Char} (hq : path = q ++ ['/']) : '\n' ∉ q := fun hm => hl (by
    rw [hq]
    exact List.mem_append_left _ hm)
  rw [search_strict_isSome_iff hn hl, search_isSome_iff]
  constructor
  · rintro ⟨e, he, hending⟩
    have hreaches := Node.reaches_of_mem_results hn he
    have hline : '\n' ∉ e.after := hreaches.not_mem hl
    obtain ⟨w, hw, -⟩ := hreaches
    have hw : path = w ++ e.after := hw
    simp only [IsEndingOf, List.mem_cons, List.not_mem_nil, or_false] at hending
    rcases hending with (h | h) | ⟨-, h | h⟩
    · exact .inl ⟨e, he, h⟩
    · exact absurd (by rw [h]; simp) hline
    · rw [h] at hw
      refine .inr ⟨w, hw, (search_strict_isSome_iff hn (hslash hw)).mpr ⟨{ e with after := [] }, ?_,
        rfl⟩⟩
      have he' : e = Cursor.followed { e with after := [] } ['/'] := by
        rw [Cursor.followed, List.nil_append, ← h]
      rw [hw, he'] at he
      exact Node.mem_results_followed (s := start count w) hn |>.mp he
    · exact absurd (by rw [h]; simp) hline
  · rintro (⟨e, he, h⟩ | ⟨q, hq, hstrict⟩)
    · exact ⟨e, he, .inl (by simp [h])⟩
    · obtain ⟨e, he, h⟩ := (search_strict_isSome_iff hn (hslash hq)).mp hstrict
      refine ⟨e.followed ['/'], ?_, .inr ⟨rfl, by simp [Cursor.followed, h]⟩⟩
      rw [hq]
      exact (Node.mem_results_followed (s := start count q) hn).mpr he

/-- A bare path is compiled under both settings of slashes. In a text without the end of a line it
is found under the loose setting if and only if it is found under the strict one, there or where the
text ends with a slash and that slash is left out. -/
theorem bare_found_loose_iff (caseSensitive : Bool) {s : String} (hs : isBarePath s.toList) :
    ∃ loose strict : Pattern, Pattern.compile caseSensitive false (.text s) = .ok loose ∧
      Pattern.compile caseSensitive true (.text s) = .ok strict ∧
      ∀ path, '\n' ∉ path → ((loose.matcher.search path).isSome ↔
        (strict.matcher.search path).isSome ∨
          ∃ q, path = q ++ ['/'] ∧ (strict.matcher.search q).isSome) :=
  ⟨_, _, compile_bare caseSensitive false hs, compile_bare caseSensitive true hs,
    fun _ hl => search_loose_isSome_iff (isLocal_bareNodesOf _ 0 _) hl⟩

theorem bare_found_loose_iff_mixed : isBarePath "/a.b/:id.:format?/*/c:rest*".toList ∧
    ∃ loose strict : Pattern,
      Pattern.compile false false (.text "/a.b/:id.:format?/*/c:rest*") = .ok loose ∧
      Pattern.compile false true (.text "/a.b/:id.:format?/*/c:rest*") = .ok strict ∧
      ((loose.matcher.search "/A.b/7//cx/".toList).isSome ↔
        (strict.matcher.search "/A.b/7//cx/".toList).isSome ∨
          ∃ q, "/A.b/7//cx/".toList = q ++ ['/'] ∧ (strict.matcher.search q).isSome) := by
  have hs : isBarePath "/a.b/:id.:format?/*/c:rest*".toList := by decide
  obtain ⟨loose, strict, hloose, hstrict, hfound⟩ := bare_found_loose_iff false hs
  exact ⟨hs, loose, strict, hloose, hstrict, hfound _ (by decide)⟩

end ActionRouting.Path
