import ActionRouting.Proofs.Regex.Kept
import ActionRouting.Proofs.Regex.LastDollar
import ActionRouting.Proofs.Regex.Outermost
import ActionRouting.Proofs.Regex.Results

/-! Regular expressions that stand between a caret and a dollar sign. Without a bar outside all
groups, a match begins where the text does, and it ends where the text or its last line does if the
dollar sign is no character. -/
namespace ActionRouting.Regex

namespace Parser

variable {p q : Parser} {t : Token} {ts : List Token} {groups : List Bool}

/-- It is known of each group that is open whether it ignores blanks; around them all, none are
ignored. -/
def Knows (p : Parser) (groups : List Bool) : Prop :=
  ∃ inner, groups = inner ++ [false] ∧ inner.length = p.outer.length

lemma BeginsText.knows_step (h : p.BeginsText) (hk : p.Knows groups) (hs : p.step t = .ok q) :
    q.Knows (verbosity t groups) := by
  obtain ⟨inner, rfl, hlength⟩ := hk
  have hdepth := length_outer_of_step hs
  cases t with
  | openCapture | openPlain | openLook | openAtomic | openIfGroup | openIfNamed =>
    exact ⟨_ :: inner, rfl, (congrArg (· + 1) hlength).trans hdepth.symm⟩
  | close =>
    obtain ⟨frame, outer, -, houter, hq, -⟩ := leave_eq_ok hs
    rw [houter] at hlength
    obtain ⟨b, inner, rfl⟩ := List.exists_cons_of_length_pos (Nat.lt_of_lt_of_eq (Nat.succ_pos _)
      hlength.symm)
    exact ⟨inner, by simp [verbosity], by rw [hq]; exact Nat.succ.inj hlength⟩
  | flags on =>
    rw [h.step_flags] at hs
    cases hs
  | _ => exact ⟨inner, rfl, hlength.trans hdepth.symm⟩

lemma BeginsText.knows_run (h : p.BeginsText) (hbar : hasOuterBar p.outer.length ts = false)
    (hk : p.Knows groups) (hr : p.run ts = .ok q) : q.Knows (verbosityAfter groups ts) := by
  induction ts generalizing p groups with
  | nil =>
    cases hr
    exact hk
  | cons t ts ih =>
    obtain ⟨p', hs, hr⟩ := run_cons_eq_ok hr
    obtain ⟨hfirst, hrest⟩ := hasOuterBar_cons hbar
    refine ih (h.step (fun ho => hfirst (List.length_eq_zero_iff.mpr ho)) hs) ?_
      (h.knows_step hk hs) hr
    rwa [length_outer_of_step hs]

end Parser

/-- What begins with a caret ends with a dollar sign if what is behind the caret does. -/
lemma getLast?_caret {ts : List Token} :
    (Token.caret :: ts).getLast? = some .dollar ↔ ts.getLast? = some .dollar := by
  rw [List.getLast?_cons]
  cases ts.getLast? <;> simp

/-- The dollar sign that a regular expression ends with is a token of its own, or a backslash stands
before it. -/
theorem getLast?_tokens {flags : Flags} {source : String} {r : Regex}
    (h : compile flags source = .ok r) (hm : flags.multiLine = false)
    (hv : flags.verbose = false) {ts : List Token}
    (hts : tokens flags.verbose source.toList = .caret :: ts) (hbar : hasOuterBar 0 ts = false)
    (hd : ['$'] <:+ source.toList) :
    ts.getLast? = some .dollar ∨ ['\\', '$'] <:+ source.toList := by
  have hbad := (compile_balanced h).2
  obtain ⟨p, hp, houter, -⟩ := compile_run h
  rw [hts] at hp
  obtain ⟨q, hq, hp⟩ := Parser.run_cons_eq_ok hp
  obtain ⟨hfirst, hdepth⟩ := Parser.begins_of_caret hm hq
  have hknows : q.Knows [flags.verbose] := ⟨[], by rw [hv]; rfl, by rw [hdepth]; rfl⟩
  have hbar' : hasOuterBar q.outer.length ts = false := by rwa [hdepth]
  obtain ⟨inner, hafter, hinner⟩ := hfirst.knows_run hbar' hknows hp
  rw [houter, List.length_nil, List.length_eq_zero_iff] at hinner
  have hverbosity : (verbosityAfter [flags.verbose] (tokens flags.verbose source.toList)).headD
      false = false := by
    rw [hts]
    change (verbosityAfter [flags.verbose] ts).headD false = false
    rw [hafter, hinner]
    rfl
  refine (getLast?_tokensFrom (Nat.le_refl _) hd hbad hverbosity).imp_left fun hlast => ?_
  change (tokens flags.verbose source.toList).getLast? = some .dollar at hlast
  rwa [hts, getLast?_caret] at hlast

/-! ### Matches -/

section Search

variable {r : Regex} {text : List Char} {nodes : List Node} {s e : Cursor} {m : Match}

/-- A match ends at the end of the text, or before a line break that the text ends with. -/
def Match.EndsText (m : Match) (text : List Char) : Prop :=
  m.span.stop = text.length ∨ m.span.stop + 1 = text.length ∧ text.getLast? = some '\n'

lemma isOn_positions {count pos : Nat} {groups : List Mark} (before cs : List Char)
    (ht : before.reverse ++ cs = text) (hp : pos = before.length) (hg : groups.length = count)
    (h : s ∈ Cursor.positions groups pos before cs) : s.IsOn text count [] := by
  induction cs generalizing pos before with
  | nil =>
    obtain rfl := List.mem_singleton.mp h
    exact ⟨ht, hp, hg, List.nil_prefix⟩
  | cons c cs ih =>
    rcases List.mem_cons.mp h with rfl | h
    · exact ⟨ht, hp, hg, List.nil_prefix⟩
    · exact ih _ (by simpa using ht) (by rw [hp, List.length_cons]) h

/-- A match is one at some place of the text. -/
lemma exists_preferred (h : r.search text = some m) :
    ∃ s e, s.IsOn text r.groupCount [] ∧ r.preferred s = some e ∧ m.span = ⟨s.pos, e.pos⟩ := by
  rw [search_eq] at h
  obtain ⟨s, hs, hm⟩ := List.exists_of_findSome?_eq_some h
  unfold matchAt at hm
  split at hm
  · obtain ⟨e, he, rfl⟩ := Option.map_eq_some_iff.mp hm
    exact ⟨s, e, isOn_positions [] text rfl rfl List.length_replicate hs, he, rfl⟩
  · cases hm

/-- What begins with the start of the text matches there alone. -/
lemma before_of_preferred (hroot : r.root = .ofParts (.anchor .textStart :: nodes))
    (h : r.preferred s = some e) : s.before = [] := by
  by_contra hbefore
  have hfails : Anchor.textStart.holds s = false := by
    simpa [Anchor.holds, List.isEmpty_iff] using hbefore
  unfold preferred at h
  rw [hroot] at h
  split at h
  · have htrial : r.trial s = none := by
      rw [trial, hroot, Course.alone]
      change (Node.course false .other (.seq (.anchor .textStart) (.ofParts nodes)) s s.pos
        .done).toOption = none
      rw [Node.course, Node.course, hfails]
      rfl
    rw [htrial] at h
    cases h
  · rw [Node.results_ofParts_cons, Node.results, hfails] at h
    cases h

/-- A trial of what ends with a condition comes to its goal only where the condition holds. -/
lemma endsIn_course {condition : Anchor} {count : Nat} {final : Cursor → Prop} {goal : Goal}
    (hg : ∀ s' stand', s'.IsOn text count [] → condition.holds s' →
      (goal s' stand').EndsIn final count [])
    (nodes : List Node) (inLoop : Bool) (next : Lead) (hs : s.IsOn text count []) (stand : Nat) :
    (Node.course inLoop next (.ofParts (nodes ++ [.anchor condition])) s stand goal).EndsIn
      final count [] := by
  induction nodes generalizing s stand with
  | nil =>
    change (Node.course inLoop next (.seq (.anchor condition) .empty) s stand goal).EndsIn
      final count []
    rw [Node.course, Node.course]
    split
    · next hholds =>
      rw [Node.course]
      exact hg s stand hs hholds
    · exact .fail hs _
  | cons n nodes ih =>
    change (Node.course inLoop next (.seq n (.ofParts (nodes ++ [.anchor condition]))) s stand
      goal).EndsIn final count []
    rw [Node.course]
    have hn : n.spares ([] : List Mark).length := n.spares_zero
    exact Node.isOn_course hn _ _ final s stand _ hs fun s' stand' hs' => ih hs' stand'

/-- What ends with a condition matches up to a place where the condition holds. -/
lemma holds_of_preferred {condition : Anchor} {count : Nat}
    (hroot : r.root = .ofParts (nodes ++ [.anchor condition])) (hs : s.IsOn text count [])
    (h : r.preferred s = some e) : condition.holds e ∧ e.IsOn text count [] := by
  unfold preferred at h
  split at h
  · have hgoal (s' : Cursor) (stand' : Nat) (hs' : s'.IsOn text count [])
        (hholds : condition.holds s') : (Goal.done s' stand').EndsIn
          (fun e => condition.holds e ∧ e.IsOn text count []) count [] := ⟨hholds, hs'⟩
    have hends := endsIn_course hgoal nodes false .other hs s.pos
    rw [trial, hroot, Course.alone] at h
    cases ht : Node.course false .other (.ofParts (nodes ++ [.anchor condition])) s s.pos .done with
    | error trace =>
      rw [ht] at h
      cases h
    | ok e' =>
      rw [ht] at h hends
      cases h
      exact hends
  · have he := List.mem_of_mem_head? h
    rw [hroot, Node.results_ofParts_append] at he
    obtain ⟨t, ht, he⟩ := List.mem_flatMap.mp he
    rw [Node.results_ofParts_singleton, Node.results] at he
    split at he
    · next hholds =>
      have hn : (Node.ofParts nodes).spares ([] : List Mark).length := Node.spares_zero _
      rw [List.mem_singleton.mp he]
      exact ⟨hholds, Node.isOn_results_of_spares hn hs t ht⟩
    · cases he

/-- A search for what begins with the start of the text finds nothing elsewhere. -/
theorem start_of_search (hroot : r.root = .ofParts (.anchor .textStart :: nodes))
    (h : r.search text = some m) : m.span.start = 0 := by
  obtain ⟨s, e, hs, he, hspan⟩ := exists_preferred h
  rw [hspan, hs.pos_eq, before_of_preferred hroot he]
  rfl

/-- A search for what ends with the end of the last line finds only what ends there. -/
theorem endsText_of_search (hroot : r.root = .ofParts (nodes ++ [.anchor .finalLineEnd]))
    (h : r.search text = some m) : m.EndsText text := by
  obtain ⟨s, e, hs, he, hspan⟩ := exists_preferred h
  obtain ⟨hholds, hon⟩ := holds_of_preferred hroot hs he
  rw [Match.EndsText, hspan, ← hon.text_eq]
  dsimp only
  rw [hon.pos_eq]
  rw [Anchor.holds, Bool.or_eq_true, List.isEmpty_iff, beq_iff_eq] at hholds
  rcases hholds with hafter | hafter
  · exact .inl (by simp [hafter])
  · exact .inr (by simp [hafter])

end Search

end ActionRouting.Regex
