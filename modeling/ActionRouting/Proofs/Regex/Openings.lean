import ActionRouting.Proofs.Regex.Parens

/-! Reading the tokens of a tame text, which shows its parentheses. What a token takes beyond its
first character, and beyond a character that a backslash hides, is inert. -/
namespace ActionRouting.Regex

/-- A token is no parenthesis and sets no options. -/
def Token.IsPlain (t : Token) : Prop := t.paren? = none ∧ ∀ groups, verbosity t groups = groups

lemma isSome_of_mapM {α β : Type} {f : α → Option β} {xs : List α} {ys : List β}
    (h : xs.mapM f = some ys) : ∀ x ∈ xs, (f x).isSome := by
  induction xs generalizing ys with
  | nil => simp
  | cons x xs ih =>
    rw [List.mapM_cons] at h
    cases hx : f x with
    | none => simp [hx] at h
    | some y =>
      cases hs : xs.mapM f with
      | none => simp [hx, hs] at h
      | some ys => simpa [hx] using ih hs

lemma skips_readHex {size n : Nat} {cs rest : List Char} (h : readHex size cs = .ok (n, rest)) :
    Skips cs rest := by
  unfold readHex at h
  split at h
  · next digits hd =>
    split at h
    · cases h
      refine .drop (List.all_eq_true.mpr fun c hc => ?_)
      exact isInert_of (p := fun c => (hexValue? c).isSome) (by decide) (isSome_of_mapM hd c hc)
    · cases h
  · cases h

lemma skips_readCodePoint {kind : Char} {n : Nat} {cs rest : List Char}
    (h : readCodePoint kind cs = .ok (n, rest)) : Skips cs rest := by
  unfold readCodePoint at h
  cases hx : readHex (if kind = 'x' then 2 else if kind = 'u' then 4 else 8) cs with
  | error e => rw [hx] at h; cases h
  | ok r =>
    rw [hx] at h
    simp only [bind, Except.bind] at h
    split at h
    · cases h
      exact skips_readHex hx
    · cases h

lemma eq_of_dropWhile_ne {d c : Char} {cs rest : List Char}
    (h : cs.dropWhile (· ≠ d) = c :: rest) : c = d := by
  have hc : (cs.dropWhile (· ≠ d)).head? = some c := by rw [h]; rfl
  have := List.head?_dropWhile_not (fun x => decide (x ≠ d)) cs
  rw [hc] at this
  simpa using this

lemma all_of_code? {name : List Char} {n : Nat} (h : Text.CharName.code? name = some n) :
    name.all Text.CharName.isNameChar := by
  unfold Text.CharName.code? at h
  split at h
  · cases h
  · next hn => simpa using hn

lemma skips_readNamed {n : Nat} {cs rest : List Char} (h : readNamed cs = .ok (n, rest)) :
    Skips cs rest := by
  unfold readNamed at h
  split at h
  · next cs =>
    split at h
    · next n d rest hc hd =>
      cases h
      refine .cons (by decide) (Skips.of_dropWhile hd ?_ ?_)
      · refine List.all_eq_true.mpr fun c hm => ?_
        exact isInert_of (by decide) (List.all_eq_true.mp (all_of_code? hc) c hm)
      · rw [eq_of_dropWhile_ne hd]
        decide
    · cases h
  · cases h

/-- A reading skips inert characters and gives a token that is no parenthesis. -/
def ReadsPlain (cs : List Char) (r : Except Error (Token × List Char)) : Prop :=
  ∀ t rest, r = .ok (t, rest) → t.IsPlain ∧ Skips cs rest

lemma ReadsPlain.ok {cs rest : List Char} {t : Token} (ht : t.IsPlain) (hs : Skips cs rest) :
    ReadsPlain cs (.ok (t, rest)) := by
  rintro _ _ ⟨⟩
  exact ⟨ht, hs⟩

lemma ReadsPlain.error (cs : List Char) (e : Error) : ReadsPlain cs (.error e) := by
  rintro _ _ ⟨⟩

lemma ReadsPlain.bind {α : Type} {cs : List Char} {x : Except Error α}
    {f : α → Except Error (Token × List Char)} (h : ∀ a, x = .ok a → ReadsPlain cs (f a)) :
    ReadsPlain cs (x >>= f) := by
  cases x with
  | error e => exact .error cs e
  | ok a => exact h a rfl

lemma ReadsPlain.ite {p : Prop} [Decidable p] {cs : List Char}
    {x y : Except Error (Token × List Char)} (hx : p → ReadsPlain cs x)
    (hy : ¬ p → ReadsPlain cs y) : ReadsPlain cs (if p then x else y) := by
  split
  · exact hx ‹_›
  · exact hy ‹_›

lemma readEscape_cons (c : Char) (cs : List Char) : ReadsPlain cs (readEscape (c :: cs)) := by
  have hoct (c : Char) (h : isOctal c) : isInert c := isInert_of (by decide) h
  have hdig (c : Char) (h : c.isDigit) : isInert c := isInert_of (by decide) h
  unfold readEscape
  dsimp only
  split
  · exact .ok ⟨rfl, fun _ => rfl⟩ (.refl _)
  · exact .ok ⟨rfl, fun _ => rfl⟩ (.refl _)
  refine .ite (fun _ => .ok ⟨rfl, fun _ => rfl⟩ (.refl _)) fun _ => ?_
  refine .ite (fun _ => .ok ⟨rfl, fun _ => rfl⟩ (.refl _)) fun _ => ?_
  refine .ite (fun _ => .ok ⟨rfl, fun _ => rfl⟩ (.refl _)) fun _ => ?_
  refine .ite (fun _ => .ok ⟨rfl, fun _ => rfl⟩ (.refl _)) fun _ => ?_
  refine .ite (fun _ => .bind fun r hr => .ok ⟨rfl, fun _ => rfl⟩ (skips_readCodePoint hr))
    fun _ => ?_
  refine .ite (fun _ => .bind fun r hr => .ok ⟨rfl, fun _ => rfl⟩ (skips_readNamed hr)) fun _ => ?_
  refine .ite (fun _ => .ok ⟨rfl, fun _ => rfl⟩ (.drop ?_)) fun _ => ?_
  · have hpre : (cs.take 2).takeWhile isOctal <+: cs :=
      (List.takeWhile_prefix _).trans (List.take_prefix _ _)
    rw [← List.prefix_iff_eq_take.mp hpre]
    exact Skips.all_takeWhile hoct _
  refine .ite (fun _ => ?_) fun _ => ?_
  · split
    · next d e rest =>
      refine .ite (fun h => .ite (fun _ => .ok ⟨rfl, fun _ => rfl⟩ ?_) fun _ => .error _ _)
        fun _ => .ite (fun h => .ok ⟨rfl, fun _ => rfl⟩ (.cons (hdig _ h) (.refl _)))
          fun _ => .ok ⟨rfl, fun _ => rfl⟩ (.refl _)
      simp only [Bool.and_eq_true] at h
      exact .cons (hoct _ h.1.2) (.cons (hoct _ h.2) (.refl _))
    · exact .ite (fun h => .ok ⟨rfl, fun _ => rfl⟩ (.cons (hdig _ h) (.refl _)))
        fun _ => .ok ⟨rfl, fun _ => rfl⟩ (.refl _)
    · exact .ok ⟨rfl, fun _ => rfl⟩ (.refl _)
  · exact .ite (fun _ => .error _ _) fun _ => .ok ⟨rfl, fun _ => rfl⟩ (.refl _)

lemma skips_readMode (cs : List Char) : Skips cs (readMode cs).2 := by
  unfold readMode
  split
  · exact .cons (by decide) (.refl _)
  · exact .cons (by decide) (.refl _)
  · exact .refl _

lemma readQuantifier_reads (lo : Nat) (hi : Option Nat) (cs : List Char) :
    (readQuantifier lo hi cs).1.IsPlain ∧ Skips cs (readQuantifier lo hi cs).2 :=
  ⟨⟨rfl, fun _ => rfl⟩, skips_readMode cs⟩

lemma skips_bounds? {cs lo hi rest : List Char} (h : bounds? cs = some (lo, hi, rest)) :
    Skips cs rest := by
  have hdig (c : Char) (h : c.isDigit) : isInert c := isInert_of (by decide) h
  have hall (ds : List Char) : (ds.takeWhile Char.isDigit).all isInert :=
    Skips.all_takeWhile hdig ds
  unfold bounds? at h
  dsimp only at h
  split at h
  · next ds hd =>
    split at h
    · next after ha =>
      cases h
      have hs := Skips.of_dropWhile hd (hall _) (by decide)
      exact hs.trans (Skips.of_dropWhile ha (hall _) (by decide))
    · cases h
  · next after hd =>
    split at h
    · cases h
    · cases h
      exact Skips.of_dropWhile hd (hall _) (by decide)
  · cases h

/-- A brace is read with what it bounds, unless its bounds are at fault. -/
lemma readBrace_reads (cs : List Char) : (∃ e rest, readBrace cs = (.bad e, rest)) ∨
    ((readBrace cs).1.IsPlain ∧ Skips cs (readBrace cs).2) := by
  unfold readBrace
  split
  · exact .inr ⟨⟨rfl, fun _ => rfl⟩, .refl _⟩
  · next lo hi rest hb =>
    split
    · next least greatest _ =>
      have ⟨hp, hs⟩ := readQuantifier_reads least greatest rest
      exact .inr ⟨hp, (skips_bounds? hb).trans hs⟩
    · exact .inl ⟨_, _, rfl⟩

lemma all_inert_of_isIdentifier {name : List Char} (h : Text.isIdentifier name) :
    name.all isInert := by
  cases name with
  | nil => rfl
  | cons c cs =>
    simp only [Text.isIdentifier, Bool.and_eq_true, List.all_eq_true] at h
    simp only [List.all_cons, Bool.and_eq_true, List.all_eq_true]
    refine ⟨isInert_of (by decide) h.1, fun d hd => ?_⟩
    exact isInert_of (by decide) (h.2 d hd)

lemma readGroupName_eq_ok {closing : Char} {cs rest : List Char} {name : String}
    (h : readGroupName closing cs = .ok (name, rest)) (hc : isInert closing) :
    name = String.ofList (cs.takeWhile (· ≠ closing)) ∧ Skips cs rest := by
  unfold readGroupName at h
  dsimp only at h
  split at h
  · cases h
  · next c rest hd =>
    split at h
    · next hi =>
      cases h
      refine ⟨rfl, Skips.of_dropWhile hd ?_ ?_⟩
      · exact all_inert_of_isIdentifier hi
      · rwa [eq_of_dropWhile_ne hd]
    · cases h

lemma isTameOpening_cases {cs : List Char} (h : isTameOpening cs) :
    (∃ ds, cs = '?' :: ':' :: ds ∨ cs = '?' :: '=' :: ds ∨ cs = '?' :: '!' :: ds ∨
      cs = '?' :: 'P' :: '<' :: ds) ∨ cs.head? ≠ some '?' := by
  simp only [isTameOpening, Bool.or_eq_true, Bool.not_eq_true', List.any_cons, List.any_nil,
    List.isPrefixOf_iff_prefix, Bool.or_false] at h
  rcases h with h | ⟨ds, rfl⟩ | ⟨ds, rfl⟩ | ⟨ds, rfl⟩ | ⟨ds, rfl⟩
  · right
    rintro he
    cases cs with
    | nil => cases he
    | cons c cs =>
      cases he
      cases h
  all_goals exact .inl ⟨ds, by simp⟩

lemma readOpening_of_ne {cs : List Char} (h : cs.head? ≠ some '?') :
    readOpening cs = .ok (.openCapture none, cs) := by
  unfold readOpening
  split <;> simp_all

lemma mark_beq {c : Char} {cs : List Char} (h : (c :: cs).head? ≠ some '?') :
    ('?' == c) = false := by
  rw [beq_eq_false_iff_ne]
  rintro rfl
  exact h rfl

lemma opening_of_ne {cs : List Char} (h : cs.head? ≠ some '?') : opening cs = .capture none := by
  cases cs with
  | nil => rfl
  | cons c cs => simp [opening, List.isPrefixOf, mark_beq h]

lemma isTameOpening_of_ne {cs : List Char} (h : cs.head? ≠ some '?') : isTameOpening cs := by
  cases cs with
  | nil => rfl
  | cons c cs => simp [isTameOpening, List.isPrefixOf, mark_beq h]

/-- What a tame opening is, its parenthesis read. -/
lemma readOpening_of_tame {cs rest : List Char} {t : Token} (ht : isTameOpening cs)
    (h : readOpening cs = .ok (t, rest)) : t.paren? = some (opening cs) ∧
      (∀ groups, verbosity t groups = groups.headD false :: groups) ∧ Skips cs rest := by
  rcases isTameOpening_cases ht with ⟨ds, rfl | rfl | rfl | rfl⟩ | hne
  · cases h
    exact ⟨rfl, fun _ => by simp [verbosity], .cons (by decide) (.cons (by decide) (.refl _))⟩
  · cases h
    exact ⟨rfl, fun _ => rfl, .cons (by decide) (.cons (by decide) (.refl _))⟩
  · cases h
    exact ⟨rfl, fun _ => rfl, .cons (by decide) (.cons (by decide) (.refl _))⟩
  · cases hn : readGroupName '>' ds with
    | error e =>
      simp only [readOpening, hn] at h
      cases h
    | ok r =>
      simp only [readOpening, hn] at h
      obtain ⟨hname, hs⟩ := readGroupName_eq_ok hn (by decide)
      cases h
      exact ⟨by simp [Token.paren?, opening, hname], fun _ => rfl,
        .cons (by decide) (.cons (by decide) (.cons (by decide) hs))⟩
  · rw [readOpening_of_ne hne] at h
    cases h
    exact ⟨by rw [opening_of_ne hne]; rfl, fun _ => rfl, .refl _⟩

lemma readSet_of_tame {cs rest : List Char} {t : Token} (ht : isTameSet cs)
    (h : readSet cs = .ok (t, rest)) : t.IsPlain ∧ Skips cs rest := by
  unfold isTameSet at ht
  split at ht
  · cases h
    exact ⟨⟨rfl, fun _ => rfl⟩,
      .cons (by decide) (.cons (by decide) (.cons (by decide) (.refl _)))⟩
  · cases h
    exact ⟨⟨rfl, fun _ => rfl⟩,
      .cons (by decide) (.cons (by decide) (.cons (by decide) (.cons (by decide) (.refl _))))⟩
  · cases ht

/-- What reading one token does to the parentheses of a tame text. -/
structure Reads (c : Char) (cs : List Char) (t : Token) (rest : List Char) : Prop where
  parens_eq : parens (c :: cs) = (t.paren?.map (cs.length + 1, ·)).toList ++ parens rest
  isTame : IsTame rest
  length_le : rest.length ≤ cs.length
  quiet : ∀ groups : List Bool, (∀ b ∈ groups, b = false) → ∀ b ∈ verbosity t groups, b = false

lemma Reads.of_skips {c : Char} {cs rest : List Char} {t : Token} (hc : c ≠ '\\')
    (ht : IsTame (c :: cs)) (hp : t.paren? = parenAt? c cs) (hs : Skips cs rest)
    (hv : ∀ groups : List Bool, (∀ b ∈ groups, b = false) → ∀ b ∈ verbosity t groups, b = false) :
    Reads c cs t rest := by
  have hb : (c == '\\') = false := by simpa using hc
  have ht' : IsTame cs := by
    simp only [IsTame, isTameFrom, hb, Bool.and_eq_true] at ht
    exact ht.2
  refine ⟨?_, hs.isTame_iff.mp ht', hs.length_le, hv⟩
  rw [← hs.parens_eq, hp, parens, parensFrom, hb, parens]

lemma Reads.of_plain {c : Char} {cs rest : List Char} {t : Token} (hc : c ≠ '\\')
    (ht : IsTame (c :: cs)) (hp : t.IsPlain) (hn : parenAt? c cs = none) (hs : Skips cs rest) :
    Reads c cs t rest :=
  .of_skips hc ht (hp.1.trans hn.symm) hs fun groups h => by rwa [hp.2 groups]

lemma orBad_eq {r : Except Error (Token × List Char)} {t : Token} {rest : List Char}
    (h : orBad r = (t, rest)) (hb : ∀ e, t ≠ .bad e) : r = .ok (t, rest) := by
  cases r with
  | ok r => exact congrArg _ h
  | error e =>
    cases h
    exact absurd rfl (hb e)

/-- One token of a tame text, unless it is at fault. -/
theorem readToken_reads {c : Char} {cs rest : List Char} {t : Token} (ht : IsTame (c :: cs))
    (h : readToken c cs = (t, rest)) (hb : ∀ e, t ≠ .bad e) : Reads c cs t rest := by
  have hat : isTameAt c cs := by
    simp only [IsTame, isTameFrom, Bool.and_eq_true] at ht
    exact ht.1
  have hq (lo : Nat) (hi : Option Nat) : readQuantifier lo hi cs = (t, rest) →
      t.IsPlain ∧ Skips cs rest := by
    intro he
    simpa [he] using readQuantifier_reads lo hi cs
  unfold readToken at h
  split at h
  · have he := orBad_eq h hb
    cases cs with
    | nil => cases he
    | cons d ds =>
      obtain ⟨hp, hs⟩ := readEscape_cons d ds t rest he
      refine ⟨?_, hs.isTame_iff.mp ((isTame_escape d ds).mp ht), Nat.le_succ_of_le hs.length_le, ?_⟩
      · rw [parens_escape, hs.parens_eq, hp.1]
        rfl
      · intro groups hg
        rwa [hp.2 groups]
  · obtain ⟨hp, hs⟩ := readSet_of_tame hat (orBad_eq h hb)
    exact .of_plain (by decide) ht hp rfl hs
  · obtain ⟨hp, hv, hs⟩ := readOpening_of_tame hat (orBad_eq h hb)
    refine .of_skips (by decide) ht hp hs fun groups hg => ?_
    rw [hv groups]
    cases groups <;> simp_all
  · rcases readBrace_reads cs with ⟨e, r, he⟩ | hr
    · rw [he] at h
      cases h
      exact absurd rfl (hb e)
    · rw [h] at hr
      exact .of_plain (by decide) ht hr.1 rfl hr.2
  · exact .of_plain (by decide) ht (hq _ _ h).1 rfl (hq _ _ h).2
  · exact .of_plain (by decide) ht (hq _ _ h).1 rfl (hq _ _ h).2
  · exact .of_plain (by decide) ht (hq _ _ h).1 rfl (hq _ _ h).2
  · cases h
    exact .of_plain (by decide) ht ⟨rfl, fun _ => rfl⟩ rfl (.refl _)
  · cases h
    exact .of_plain (by decide) ht ⟨rfl, fun _ => rfl⟩ rfl (.refl _)
  · cases h
    exact .of_plain (by decide) ht ⟨rfl, fun _ => rfl⟩ rfl (.refl _)
  · cases h
    exact .of_plain (by decide) ht ⟨rfl, fun _ => rfl⟩ rfl (.refl _)
  · cases h
    refine .of_skips (by decide) ht rfl (.refl _) fun groups hg b hm => ?_
    simp only [verbosity] at hm
    split at hm
    · exact hg b hm
    · exact hg b (List.mem_of_mem_tail hm)
  · cases h
    refine .of_plain ‹_› ht ⟨rfl, fun _ => rfl⟩ ?_ (.refl _)
    simp_all [parenAt?]

/-- The parentheses among the tokens of a tame text are those that no backslash hides. -/
theorem parensOf_locatedFrom {fuel : Nat} {groups : List Bool} {cs : List Char}
    (hf : cs.length ≤ fuel) (hg : ∀ b ∈ groups, b = false) (ht : IsTame cs)
    (hb : ∀ e, .bad e ∉ tokensFrom fuel groups cs) :
    parensOf (locatedFrom fuel groups cs) = parens cs := by
  induction fuel generalizing groups cs with
  | zero =>
    rw [List.eq_nil_of_length_eq_zero (Nat.le_zero.mp hf)]
    rfl
  | succ fuel ih =>
    cases cs with
    | nil => rfl
    | cons c cs =>
      have hv : groups.headD false = false := by
        cases groups <;> simp_all
      simp only [locatedFrom, tokensFrom, hv, Bool.false_and, Bool.false_eq_true, if_false] at hb ⊢
      obtain ⟨t, rest, hr⟩ : ∃ t rest, readToken c cs = (t, rest) := ⟨_, _, rfl⟩
      rw [hr] at hb ⊢
      simp only [List.mem_cons, not_or] at hb
      have hreads := readToken_reads ht hr fun e he => (hb e).1 he.symm
      rw [parensOf, List.filterMap_cons]
      have hrest := ih (Nat.le_trans hreads.length_le (Nat.le_of_succ_le_succ hf))
        (hreads.quiet groups hg) hreads.isTame fun e => (hb e).2
      rw [hreads.parens_eq, ← hrest, parensOf]
      cases t.paren? <;> rfl

end ActionRouting.Regex
