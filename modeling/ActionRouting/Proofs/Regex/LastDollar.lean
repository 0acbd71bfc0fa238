import ActionRouting.Proofs.Regex.Consumed

/-! The dollar sign that a text ends with. Tokens that are longer than a character end with some
other character, an escaped dollar sign apart. So the dollar sign is a token of its own, or a
backslash stands before it. -/
namespace ActionRouting.Regex

variable {α β : Type} {c d : Char} {cs ds rest : List Char}

/-- What is left of a text stands behind a character that is no dollar sign. -/
def Behind (cs rest : List Char) : Prop := ∃ u c, cs = u ++ c :: rest ∧ c ≠ '$'

lemma Behind.of_suffix (h : Behind ds rest) (hs : ds <:+ cs) : Behind cs rest := by
  obtain ⟨v, rfl⟩ := hs
  obtain ⟨u, c, rfl, hc⟩ := h
  exact ⟨v ++ u, c, by simp, hc⟩

lemma Behind.cons (h : Behind cs rest) (c : Char) : Behind (c :: cs) rest :=
  h.of_suffix (List.suffix_cons c cs)

lemma behind_self (hc : c ≠ '$') : Behind (c :: rest) rest := ⟨[], c, rfl, hc⟩

/-- No dollar sign is among the characters that were taken. -/
lemma behind_append {u : List Char} (hc : c ≠ '$') (hu : '$' ∉ u) :
    Behind (c :: (u ++ rest)) rest := by
  rcases List.eq_nil_or_concat u with rfl | ⟨v, d, rfl⟩
  · exact behind_self hc
  · refine ⟨c :: v, d, by simp, ?_⟩
    rintro rfl
    exact hu (by simp)

lemma behind_drop {n : Nat} (hc : c ≠ '$') (h : '$' ∉ cs.take n) :
    Behind (c :: cs) (cs.drop n) := by
  have htaken : Behind (c :: (cs.take n ++ cs.drop n)) (cs.drop n) := behind_append hc h
  rwa [List.take_append_drop] at htaken

lemma behind_of_dropWhile_eq {p : Char → Bool} (h : cs.dropWhile p = c :: rest) (hc : c ≠ '$') :
    Behind cs rest :=
  ⟨cs.takeWhile p, c, by rw [← h, List.takeWhile_append_dropWhile], hc⟩

lemma behind_dropWhile (hd : d ≠ '$') (h : cs.dropWhile (· ≠ d) = c :: rest) : Behind cs rest := by
  obtain rfl := eq_of_dropWhile_ne h
  exact behind_of_dropWhile_eq h hd

/-! ### Escapes -/

lemma gives_readCodePoint (hc : c ≠ '$') (kind : Char) (cs : List Char) :
    Gives (Behind (c :: cs)) (readCodePoint kind cs) := by
  unfold readCodePoint
  refine .bind (Q := Behind (c :: cs)) ?_ fun n rest hr => .ite (fun _ => .ok hr) fun _ => .error _
  unfold readHex
  split
  · next digits hd =>
    refine .ite (fun _ => .ok (behind_drop hc fun hm => ?_)) fun _ => .error _
    cases isSome_of_mapM hd _ hm
  · exact .error _

lemma gives_readNamed (cs : List Char) : Gives (Behind cs) (readNamed cs) := by
  unfold readNamed
  split
  · next cs =>
    split
    · next hd => exact .ok ((behind_dropWhile (by decide) hd).cons _)
    · exact .error _
  · exact .error _

lemma not_mem_of_all {p : Char → Bool} {u : List Char} (hp : p '$' = false) (h : u.all p) :
    '$' ∉ u := fun hm => by
  rw [List.all_eq_true.mp h _ hm] at hp
  cases hp

lemma ne_dollar {p : Char → Bool} (hp : p '$' = false) (h : p d) : d ≠ '$' := by
  rintro rfl
  rw [hp] at h
  cases h

lemma gives_readEscape (hc : c ≠ '$') (cs : List Char) :
    Gives (Behind (c :: cs)) (readEscape (c :: cs)) := by
  have hself : Behind (c :: cs) cs := behind_self hc
  unfold readEscape
  dsimp only
  split
  · exact .ok hself
  · exact .ok hself
  refine .ite (fun _ => .ok hself) fun _ => ?_
  refine .ite (fun _ => .ok hself) fun _ => ?_
  refine .ite (fun _ => .ok hself) fun _ => ?_
  refine .ite (fun _ => .ok hself) fun _ => ?_
  refine .ite (fun _ => .bind (gives_readCodePoint hc c cs) fun _ _ h => .ok h) fun _ => ?_
  refine .ite (fun _ => .bind (gives_readNamed cs) fun _ _ h => .ok (h.cons c)) fun _ => ?_
  refine .ite (fun _ => .ok (behind_drop hc ?_)) fun _ => ?_
  · have hprefix : (cs.take 2).takeWhile isOctal <+: cs :=
      (List.takeWhile_prefix _).trans (List.take_prefix 2 cs)
    rw [← List.prefix_iff_eq_take.mp hprefix]
    exact not_mem_of_all (by decide) List.all_takeWhile
  refine .ite (fun _ => ?_) fun _ => ?_
  · have htwo {d e : Char} {rest : List Char} (h : isOctal d ∧ isOctal e) :
        Behind (c :: d :: e :: rest) rest :=
      (((behind_self (ne_dollar (by decide) h.2)).cons d).cons c)
    have hone {d : Char} {rest : List Char} (h : d.isDigit) : Behind (c :: d :: rest) rest :=
      (behind_self (ne_dollar (by decide) h)).cons c
    split
    · refine .ite (fun hoctal => ?_) fun _ => .ite (fun hd => .ok (hone hd)) fun _ => .ok hself
      rw [Bool.and_eq_true, Bool.and_eq_true] at hoctal
      exact .ite (fun _ => .ok (htwo ⟨hoctal.1.2, hoctal.2⟩)) fun _ => .error _
    · exact .ite (fun hd => .ok (hone hd)) fun _ => .ok hself
    · exact .ok hself
  exact .ite (fun _ => .error _) fun _ => .ok hself

/-! ### Sets -/

lemma gives_readMembers (fuel : Nat) (found : List Member) (cs : List Char) :
    Gives (Behind cs) (readMembers fuel found cs) := by
  induction fuel generalizing found cs with
  | zero => exact .error _
  | succ fuel ih =>
    cases cs with
    | nil => exact .error _
    | cons c cs =>
      unfold readMembers
      refine .ite (fun hclose => .ok (behind_self ?_)) fun _ => ?_
      · rw [hclose.1]
        decide
      refine .bind (leaves_readMember (c :: cs)) fun first rest hrest => ?_
      dsimp only
      split
      · exact .error _
      · exact .ok (((behind_self (by decide)).cons _).of_suffix hrest)
      · next more _ _ =>
        refine .bind (leaves_readMember more) fun last rest hlast => ?_
        have hmore : rest <:+ c :: cs := (hlast.trans (List.suffix_cons _ _)).trans hrest
        dsimp only
        split
        · exact (ih _ rest).mono fun _ h => h.of_suffix hmore
        · exact .error _
      · exact (ih _ _).mono fun _ h => h.of_suffix hrest

lemma gives_readSet (cs : List Char) : Gives (Behind cs) (readSet cs) := by
  unfold readSet
  split
  · exact .bind (gives_readMembers _ _ _) fun _ _ h => .ok (h.cons _)
  · exact .bind (gives_readMembers _ _ _) fun _ _ h => .ok h

/-! ### Openings -/

lemma gives_readGroupName {closing : Char} (hc : closing ≠ '$') (cs : List Char) :
    Gives (Behind cs) (readGroupName closing cs) := by
  unfold readGroupName
  dsimp only
  split
  · exact .error _
  · next hd => exact .ite (fun _ => .ok (behind_dropWhile hc hd)) fun _ => .error _

lemma gives_behind_readFlags (cs : List Char) : Gives (Behind cs) (readFlags cs) :=
  (gives_readFlags cs).mono fun _ ⟨c, hc, h⟩ =>
    have hne : c ≠ '$' := by
      rintro rfl
      exact absurd hc (by decide)
    (behind_self hne).of_suffix h

lemma behind_afterComment (h : afterComment cs = some rest) : Behind cs rest := by
  fun_induction afterComment cs with
  | case1 => cases h
  | case2 cs =>
    cases h
    exact behind_self (by decide)
  | case3 c cs ih => exact ((ih h).cons _).cons _
  | case4 c cs _ _ ih => exact (ih h).cons _

lemma gives_readCondition (cs : List Char) : Gives (Behind cs) (readCondition cs) := by
  unfold readCondition
  dsimp only
  split
  · exact .error _
  · next hd =>
    have hrest := behind_dropWhile (by decide) hd
    refine .ite (fun _ => .ok hrest) fun _ => ?_
    split
    · exact .error _
    · exact .ite (fun _ => .error _) fun _ => .ok hrest

lemma gives_readOpening (cs : List Char) : Gives (Behind ('(' :: cs)) (readOpening cs) := by
  unfold readOpening
  split
  · exact .bind (gives_readGroupName (by decide) _)
      fun _ _ h => .ok ((((h.cons _).cons _).cons _).cons _)
  · exact .bind (gives_readGroupName (by decide) _)
      fun _ _ h => .ok ((((h.cons _).cons _).cons _).cons _)
  · exact .ok (((behind_self (by decide)).cons _).cons _)
  · exact .ok (((behind_self (by decide)).cons _).cons _)
  · exact .ok (((behind_self (by decide)).cons _).cons _)
  · exact .ok ((((behind_self (by decide)).cons _).cons _).cons _)
  · exact .ok ((((behind_self (by decide)).cons _).cons _).cons _)
  · exact .ok (((behind_self (by decide)).cons _).cons _)
  · exact (gives_readCondition _).mono fun _ h => ((h.cons _).cons _).cons _
  · split
    · next h => exact .ok ((((behind_afterComment h).cons _).cons _).cons _)
    · exact .error _
  · exact .ite (fun _ => (gives_behind_readFlags _).mono fun _ h => (h.cons _).cons _)
      fun _ => .error _
  · exact .error _
  · exact .ok (behind_self (by decide))

/-! ### Tokens -/

lemma behind_readQuantifier (hc : c ≠ '$') (lo : Nat) (hi : Option Nat) (cs : List Char) :
    Behind (c :: cs) (readQuantifier lo hi cs).2 := by
  change Behind (c :: cs) (readMode cs).2
  unfold readMode
  split
  · exact (behind_self (by decide)).cons c
  · exact (behind_self (by decide)).cons c
  · exact behind_self hc

lemma behind_bounds? {lo hi : List Char} (h : bounds? cs = some (lo, hi, rest)) :
    Behind cs rest := by
  unfold bounds? at h
  dsimp only at h
  split at h
  · next ds hd =>
    split at h
    · next after hd' =>
      cases h
      have hclose : Behind ds rest := behind_of_dropWhile_eq hd' (by decide)
      exact hclose.of_suffix (suffix_of_dropWhile hd)
    · cases h
  · next after hd =>
    split at h
    · cases h
    · cases h
      exact behind_of_dropWhile_eq hd (by decide)
  · cases h

lemma behind_readBrace {t : Token} (h : readBrace cs = (t, rest)) (ht : ∀ e, t ≠ .bad e) :
    Behind ('\x7b' :: cs) rest := by
  unfold readBrace at h
  split at h
  · cases h
    exact behind_self (by decide)
  · next lo hi more hb =>
    obtain ⟨u, d, rfl, hd⟩ := behind_bounds? hb
    split at h
    · next least greatest _ =>
      have hmode := behind_readQuantifier hd least greatest more
      rw [h] at hmode
      exact (hmode.of_suffix (List.suffix_append u _)).cons _
    · cases h
      exact absurd rfl (ht _)

/-- What is left behind a token stands behind a character that is no dollar sign, unless the token
is one, written as it is or escaped. -/
theorem readToken_behind {t : Token} (h : readToken c cs = (t, rest)) (ht : ∀ e, t ≠ .bad e) :
    Behind (c :: cs) rest ∨ (t = .dollar ∧ cs = rest) ∨ (c = '\\' ∧ cs = '$' :: rest) := by
  have hquantifier (hc : c ≠ '$') (lo : Nat) (hi : Option Nat)
      (h : readQuantifier lo hi cs = (t, rest)) : Behind (c :: cs) rest := by
    have := behind_readQuantifier hc lo hi cs
    rwa [h] at this
  unfold readToken at h
  split at h
  · have he := orBad_eq h ht
    cases cs with
    | nil => cases he
    | cons d ds =>
      by_cases hd : d = '$'
      · subst hd
        have hdollar : readEscape ('$' :: ds) = .ok (.char 36, ds) := rfl
        rw [hdollar] at he
        cases he
        exact .inr (.inr ⟨rfl, rfl⟩)
      · exact .inl ((gives_readEscape hd ds t rest he).cons _)
  · exact .inl ((gives_readSet cs t rest (orBad_eq h ht)).cons _)
  · exact .inl (gives_readOpening cs t rest (orBad_eq h ht))
  · exact .inl (behind_readBrace h ht)
  · exact .inl (hquantifier (by decide) _ _ h)
  · exact .inl (hquantifier (by decide) _ _ h)
  · exact .inl (hquantifier (by decide) _ _ h)
  · cases h
    exact .inl (behind_self (by decide))
  · cases h
    exact .inl (behind_self (by decide))
  · cases h
    exact .inr (.inl ⟨rfl, rfl⟩)
  · cases h
    exact .inl (behind_self (by decide))
  · cases h
    exact .inl (behind_self (by decide))
  · cases h
    exact .inl (behind_self (by assumption))

/-- A token behind which nothing is left of a text that ends with a dollar sign is that dollar sign,
written as it is or escaped. -/
lemma readToken_last {t : Token} (h : readToken c cs = (t, [])) (ht : ∀ e, t ≠ .bad e)
    (hd : ['$'] <:+ c :: cs) : t = .dollar ∨ ['\\', '$'] <:+ c :: cs := by
  rcases readToken_behind h ht with ⟨u, d, hu, hne⟩ | ⟨rfl, -⟩ | ⟨rfl, rfl⟩
  · rw [hu] at hd
    exact absurd (by simpa using hd) hne.symm
  · exact .inl rfl
  · exact .inr (List.suffix_refl _)

/-- Which of the enclosing groups ignore blanks, after some tokens. -/
def verbosityAfter (groups : List Bool) (ts : List Token) : List Bool :=
  ts.foldl (fun groups t => verbosity t groups) groups

lemma tokensFrom_nil (fuel : Nat) (groups : List Bool) : tokensFrom fuel groups [] = [] := by
  cases fuel <;> rfl

lemma dollar_suffix (h : ['$'] <:+ cs) (hs : rest <:+ cs) (hr : rest ≠ []) : ['$'] <:+ rest :=
  List.suffix_of_suffix_length_le h hs (List.length_pos_iff.mpr hr)

/-- The dollar sign that a text ends with is a token of its own if no backslash stands before it,
and no remark runs to the end of the text. -/
theorem getLast?_tokensFrom {fuel : Nat} {groups : List Bool} (hf : cs.length ≤ fuel)
    (hcs : ['$'] <:+ cs) (hbad : ∀ e, .bad e ∉ tokensFrom fuel groups cs)
    (hv : (verbosityAfter groups (tokensFrom fuel groups cs)).headD false = false) :
    (tokensFrom fuel groups cs).getLast? = some .dollar ∨ ['\\', '$'] <:+ cs := by
  induction fuel generalizing groups cs with
  | zero =>
    obtain rfl := List.length_eq_zero_iff.mp (Nat.le_zero.mp hf)
    cases List.suffix_nil.mp hcs
  | succ fuel ih =>
    cases cs with
    | nil => cases List.suffix_nil.mp hcs
    | cons c cs =>
      -- Where something is left, the tokens of what is left decide.
      have hlater {rest : List Char} {groups : List Bool} (hs : rest <:+ cs) (hr : rest ≠ [])
          (hbad : ∀ e, .bad e ∉ tokensFrom fuel groups rest)
          (hv : (verbosityAfter groups (tokensFrom fuel groups rest)).headD false = false) :
          (tokensFrom fuel groups rest).getLast? = some .dollar ∨ ['\\', '$'] <:+ c :: cs := by
        have hsuffix : rest <:+ c :: cs := hs.trans (List.suffix_cons c cs)
        have hlength : rest.length ≤ fuel :=
          Nat.le_trans hs.length_le (Nat.le_of_succ_le_succ hf)
        exact (ih hlength (dollar_suffix hcs hsuffix hr) hbad hv).imp_right (·.trans hsuffix)
      unfold tokensFrom at hbad hv ⊢
      split at hbad
      · next hblank =>
        rw [if_pos hblank] at hv ⊢
        refine hlater (List.suffix_refl _) ?_ hbad hv
        rintro rfl
        obtain rfl : '$' = c := (List.cons.inj (hcs.eq_of_length rfl)).1
        rw [Bool.and_eq_true] at hblank
        cases hblank.2
      · next hblank =>
        rw [if_neg hblank] at hv ⊢
        split at hbad
        · next hremark =>
          rw [if_pos hremark] at hv ⊢
          split at hbad
          · next rest hr =>
            rw [hr] at hv
            simp only at hv ⊢
            refine hlater (afterRemark_suffix hr) ?_ hbad hv
            rintro rfl
            rw [tokensFrom_nil, verbosityAfter, List.foldl_nil] at hv
            rw [hv] at hremark
            cases hremark
          · exact absurd List.mem_cons_self (hbad _)
        · next hremark =>
          rw [if_neg hremark] at hv ⊢
          obtain ⟨t, rest, hr⟩ : ∃ t rest, readToken c cs = (t, rest) := ⟨_, _, rfl⟩
          rw [hr] at hbad hv ⊢
          simp only at hbad hv ⊢
          by_cases hrest : rest = []
          · subst hrest
            rw [tokensFrom_nil]
            exact (readToken_last hr (fun e he => hbad e (he ▸ List.mem_cons_self)) hcs).imp_left
              (congrArg some)
          · have hsuffix : rest <:+ cs := by
              have := readToken_suffix c cs
              rwa [hr] at this
            refine (hlater hsuffix hrest (fun e he => hbad e (List.mem_cons_of_mem _ he))
              hv).imp_left fun hlast => ?_
            rw [List.getLast?_cons, hlast]
            rfl

end ActionRouting.Regex
