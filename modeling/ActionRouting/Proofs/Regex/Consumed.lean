import ActionRouting.Proofs.Regex.Openings
import ActionRouting.Proofs.Regex.Reading

/-! Each token of a regular expression takes the front of what is left of the text, and a
parenthesis among the tokens takes a parenthesis of the text. -/
namespace ActionRouting.Regex

variable {α β : Type} {cs ds rest : List Char}

lemma Skips.suffix (h : Skips cs rest) : rest <:+ cs := by
  induction h with
  | refl => exact List.suffix_refl _
  | cons _ _ ih => exact ih.trans (List.suffix_cons _ _)

/-- What a reading leaves has a property. -/
def Gives (P : List Char → Prop) (r : Except Error (α × List Char)) : Prop :=
  ∀ a rest, r = .ok (a, rest) → P rest

namespace Gives

variable {P Q : List Char → Prop}

lemma ok {a : α} (h : P rest) : Gives P (.ok (a, rest)) := by
  rintro _ _ ⟨⟩
  exact h

lemma error (e : Error) : Gives P (.error e : Except Error (α × List Char)) := by
  rintro _ _ ⟨⟩

lemma ite {p : Prop} [Decidable p] {x y : Except Error (α × List Char)} (hx : p → Gives P x)
    (hy : ¬ p → Gives P y) : Gives P (if p then x else y) := by
  split
  · exact hx ‹_›
  · exact hy ‹_›

lemma bind {x : Except Error (β × List Char)} {f : β × List Char → Except Error (α × List Char)}
    (hx : Gives Q x) (hf : ∀ b rest, Q rest → Gives P (f (b, rest))) : Gives P (x >>= f) := by
  cases x with
  | error e => exact .error e
  | ok r => exact hf r.1 r.2 (hx r.1 r.2 rfl)

lemma mono {r : Except Error (α × List Char)} (h : Gives Q r) (hpq : ∀ rest, Q rest → P rest) :
    Gives P r := fun a rest hr => hpq rest (h a rest hr)

end Gives

def Leaves (cs : List Char) (r : Except Error (α × List Char)) : Prop :=
  ∀ a rest, r = .ok (a, rest) → rest <:+ cs

namespace Leaves

lemma ok {a : α} (h : rest <:+ cs) : Leaves cs (.ok (a, rest)) := Gives.ok h

lemma error (e : Error) : Leaves cs (.error e : Except Error (α × List Char)) := Gives.error e

lemma ite {p : Prop} [Decidable p] {x y : Except Error (α × List Char)} (hx : p → Leaves cs x)
    (hy : ¬ p → Leaves cs y) : Leaves cs (if p then x else y) := Gives.ite hx hy

lemma bind {x : Except Error (β × List Char)} {f : β × List Char → Except Error (α × List Char)}
    (hx : Leaves ds x) (hf : ∀ b rest, rest <:+ ds → Leaves cs (f (b, rest))) :
    Leaves cs (x >>= f) := Gives.bind hx hf

lemma mono {r : Except Error (α × List Char)} (h : Leaves ds r) (hs : ds <:+ cs) : Leaves cs r :=
  Gives.mono h fun _ hrest => hrest.trans hs

end Leaves

/-! ### Sets -/

lemma leaves_readCodePoint (kind : Char) (cs : List Char) : Leaves cs (readCodePoint kind cs) :=
  fun _ _ h => (skips_readCodePoint h).suffix

lemma leaves_readNamed (cs : List Char) : Leaves cs (readNamed cs) :=
  fun _ _ h => (skips_readNamed h).suffix

lemma leaves_readSetEscape (cs : List Char) : Leaves cs (readSetEscape cs) := by
  cases cs with
  | nil => exact .error _
  | cons c cs =>
    have hcs : cs <:+ c :: cs := List.suffix_cons c cs
    unfold readSetEscape
    refine .ite (fun _ => .ok hcs) fun _ => ?_
    split
    · exact .ok hcs
    · exact .ok hcs
    refine .ite (fun _ => .bind (leaves_readCodePoint c cs) fun _ _ h => .ok (h.trans hcs))
      fun _ => ?_
    refine .ite (fun _ => .bind (leaves_readNamed cs) fun _ _ h => .ok (h.trans hcs)) fun _ => ?_
    refine .ite (fun _ => .ite (fun _ => .ok ((List.drop_suffix _ _).trans hcs))
      fun _ => .error _) fun _ => ?_
    exact .ite (fun _ => .error _) fun _ => .ok hcs

lemma leaves_readMember (cs : List Char) : Leaves cs (readMember cs) := by
  unfold readMember
  split
  · exact .error _
  · exact (leaves_readSetEscape _).mono (List.suffix_cons _ _)
  · exact .ok (List.suffix_cons _ _)

lemma leaves_readMembers (fuel : Nat) (found : List Member) (cs : List Char) :
    Leaves cs (readMembers fuel found cs) := by
  induction fuel generalizing found cs with
  | zero => exact .error _
  | succ fuel ih =>
    cases cs with
    | nil => exact .error _
    | cons c cs =>
      unfold readMembers
      refine .ite (fun _ => .ok (List.suffix_cons c cs)) fun _ => ?_
      refine .bind (leaves_readMember (c :: cs)) fun first rest hrest => ?_
      dsimp only
      split
      · exact .error _
      · next more => exact .ok (((List.suffix_cons _ _).trans (List.suffix_cons _ _)).trans hrest)
      · next more _ _ =>
        refine .bind (leaves_readMember more) fun last rest hlast => ?_
        have hmore : rest <:+ c :: cs := (hlast.trans (List.suffix_cons _ _)).trans hrest
        dsimp only
        split
        · exact (ih _ rest).mono hmore
        · exact .error _
      · exact (ih _ _).mono hrest

lemma leaves_readSet (cs : List Char) : Leaves cs (readSet cs) := by
  unfold readSet
  split
  · next ds =>
    exact .bind (leaves_readMembers _ _ ds) fun _ _ h => .ok (h.trans (List.suffix_cons _ _))
  · exact .bind (leaves_readMembers _ _ cs) fun _ _ h => .ok h

/-! ### Openings -/

lemma suffix_of_dropWhile {p : Char → Bool} {c : Char} (h : cs.dropWhile p = c :: rest) :
    rest <:+ cs :=
  (List.suffix_cons c rest).trans (h ▸ List.dropWhile_suffix p)

lemma leaves_readGroupName (closing : Char) (cs : List Char) :
    Leaves cs (readGroupName closing cs) := by
  unfold readGroupName
  dsimp only
  split
  · exact .error _
  · next hd => exact .ite (fun _ => .ok (suffix_of_dropWhile hd)) fun _ => .error _

lemma readFlagLetters_suffix (seen : Flags) (cs : List Char) :
    (readFlagLetters seen cs).2 <:+ cs := by
  induction cs generalizing seen with
  | nil => exact List.suffix_refl _
  | cons c cs ih =>
    unfold readFlagLetters
    split
    · exact (ih _).trans (List.suffix_cons _ _)
    · exact List.suffix_refl _

/-- Flags end with a parenthesis or a colon. -/
lemma gives_readFlags (cs : List Char) :
    Gives (fun rest => ∃ c ∈ [')', ':'], c :: rest <:+ cs) (readFlags cs) := by
  have hfirst := readFlagLetters_suffix {} cs
  unfold readFlags
  split
  next on rest he =>
  rw [he] at hfirst
  refine .ite (fun _ => .error _) fun _ => ?_
  split
  · exact .ite (fun _ => .error _) fun _ => .ok ⟨')', by decide, hfirst⟩
  · exact .ite (fun _ => .error _) fun _ => .ok ⟨':', by decide, hfirst⟩
  · next ds =>
    have hsecond := readFlagLetters_suffix {} ds
    split
    next off more he' =>
    rw [he'] at hsecond
    have hmore : more <:+ cs := (hsecond.trans (List.suffix_cons _ _)).trans hfirst
    split
    · exact .ite (fun _ => .error _) fun _ => .ok ⟨':', by decide, hmore⟩
    · exact .error _
  · exact .error _

lemma leaves_readFlags (cs : List Char) : Leaves cs (readFlags cs) :=
  (gives_readFlags cs).mono fun _ ⟨_, _, h⟩ => (List.suffix_cons _ _).trans h

lemma afterComment_suffix (h : afterComment cs = some rest) : rest <:+ cs := by
  fun_induction afterComment cs with
  | case1 => cases h
  | case2 cs =>
    cases h
    exact List.suffix_cons _ _
  | case3 c cs ih => exact ((ih h).trans (List.suffix_cons _ _)).trans (List.suffix_cons _ _)
  | case4 c cs _ _ ih => exact (ih h).trans (List.suffix_cons _ _)

lemma leaves_readCondition (cs : List Char) : Leaves cs (readCondition cs) := by
  unfold readCondition
  dsimp only
  split
  · exact .error _
  · next hd =>
    have hrest := suffix_of_dropWhile hd
    refine .ite (fun _ => .ok hrest) fun _ => ?_
    split
    · exact .error _
    · exact .ite (fun _ => .error _) fun _ => .ok hrest

lemma suffix_cons_cons (a b : Char) (cs : List Char) : cs <:+ a :: b :: cs :=
  (List.suffix_cons _ _).trans (List.suffix_cons _ _)

lemma suffix_cons_cons_cons (a b c : Char) (cs : List Char) : cs <:+ a :: b :: c :: cs :=
  (suffix_cons_cons b c cs).trans (List.suffix_cons _ _)

lemma leaves_readOpening (cs : List Char) : Leaves cs (readOpening cs) := by
  unfold readOpening
  split
  · exact .bind (leaves_readGroupName _ _)
      fun _ _ h => .ok (h.trans (suffix_cons_cons_cons _ _ _ _))
  · exact .bind (leaves_readGroupName _ _)
      fun _ _ h => .ok (h.trans (suffix_cons_cons_cons _ _ _ _))
  · exact .ok (suffix_cons_cons _ _ _)
  · exact .ok (suffix_cons_cons _ _ _)
  · exact .ok (suffix_cons_cons _ _ _)
  · exact .ok (suffix_cons_cons_cons _ _ _ _)
  · exact .ok (suffix_cons_cons_cons _ _ _ _)
  · exact .ok (suffix_cons_cons _ _ _)
  · exact (leaves_readCondition _).mono (suffix_cons_cons _ _ _)
  · split
    · next h => exact .ok ((afterComment_suffix h).trans (suffix_cons_cons _ _ _))
    · exact .error _
  · exact .ite (fun _ => (leaves_readFlags _).mono (List.suffix_cons _ _)) fun _ => .error _
  · exact .error _
  · exact .ok (List.suffix_refl _)

/-! ### Tokens -/

lemma suffix_of_orBad {r : Except Error (Token × List Char)} (h : Leaves cs r) :
    (orBad r).2 <:+ cs := by
  cases r with
  | ok r => exact h r.1 r.2 rfl
  | error e => exact List.nil_suffix

lemma readQuantifier_suffix (lo : Nat) (hi : Option Nat) (cs : List Char) :
    (readQuantifier lo hi cs).2 <:+ cs := (skips_readMode cs).suffix

lemma readBrace_suffix (cs : List Char) : (readBrace cs).2 <:+ cs := by
  unfold readBrace
  split
  · exact List.suffix_refl _
  · next hb =>
    have hrest := (skips_bounds? hb).suffix
    split
    · exact (readQuantifier_suffix _ _ _).trans hrest
    · exact hrest

/-- What is left behind a token is the end of the text. -/
theorem readToken_suffix (c : Char) (cs : List Char) : (readToken c cs).2 <:+ cs := by
  unfold readToken
  split
  · refine suffix_of_orBad ?_
    cases cs with
    | nil => exact .error _
    | cons d ds =>
      exact fun t rest h => (readEscape_cons d ds t rest h).2.suffix.trans (List.suffix_cons d ds)
  · exact suffix_of_orBad (leaves_readSet cs)
  · exact suffix_of_orBad (leaves_readOpening cs)
  · exact readBrace_suffix cs
  · exact readQuantifier_suffix _ _ cs
  · exact readQuantifier_suffix _ _ cs
  · exact readQuantifier_suffix _ _ cs
  all_goals exact List.suffix_refl _

/-! ### Parentheses -/

def isParen (c : Char) : Bool := c == '(' || c == ')'

namespace Token

/-- The token opens a capture group or a plain group without options, or closes a group. -/
def isGrouping : Token → Bool
  | openCapture _ | close => true
  | openPlain on off => decide (on = {} ∧ off = {})
  | _ => false

lemma IsPlain.isGrouping_eq {t : Token} (h : t.IsPlain) : t.isGrouping = false := by
  cases t with
  | openCapture | openPlain | close => cases h.1
  | _ => rfl

lemma isQuiet_of_isGrouping {t : Token} (h : t.isGrouping) : t.IsQuiet := by
  cases t with
  | openCapture name => exact isQuiet_openCapture name
  | openPlain on off =>
    obtain ⟨rfl, rfl⟩ := of_decide_eq_true h
    exact isQuiet_openPlain
  | close => exact isQuiet_close
  | _ => cases h

end Token

lemma isPlain_orBad {r : Except Error (Token × List Char)}
    (h : ∀ t rest, r = .ok (t, rest) → t.IsPlain) : (orBad r).1.IsPlain := by
  cases r with
  | ok r => exact h r.1 r.2 rfl
  | error e => exact ⟨rfl, fun _ => rfl⟩

lemma isPlain_readSet {t : Token} (h : readSet cs = .ok (t, rest)) : t.IsPlain := by
  have hset {negated : Bool} {r : Except Error (List Member × List Char)}
      (h : (r >>= fun m => .ok (.set negated m.1, m.2)) = Except.ok (t, rest)) : t.IsPlain := by
    cases r with
    | ok r =>
      cases h
      exact ⟨rfl, fun _ => rfl⟩
    | error e => cases h
  unfold readSet at h
  split at h
  · exact hset h
  · exact hset h

/-- What begins with no parenthesis is no parenthesis, and sets no options. -/
lemma isPlain_readToken {c : Char} (hc : isParen c = false) (cs : List Char) :
    (readToken c cs).1.IsPlain := by
  simp only [isParen, Bool.or_eq_false_iff, beq_eq_false_iff_ne] at hc
  unfold readToken
  split
  · refine isPlain_orBad fun t rest h => ?_
    cases cs with
    | nil => cases h
    | cons d ds => exact (readEscape_cons d ds t rest h).1
  · exact isPlain_orBad fun _ _ h => isPlain_readSet h
  · exact absurd rfl hc.1
  · rcases readBrace_reads cs with ⟨e, r, he⟩ | hr
    · rw [he]
      exact ⟨rfl, fun _ => rfl⟩
    · exact hr.1
  · exact (readQuantifier_reads _ _ cs).1
  · exact (readQuantifier_reads _ _ cs).1
  · exact (readQuantifier_reads _ _ cs).1
  · exact ⟨rfl, fun _ => rfl⟩
  · exact ⟨rfl, fun _ => rfl⟩
  · exact ⟨rfl, fun _ => rfl⟩
  · exact ⟨rfl, fun _ => rfl⟩
  · exact absurd rfl hc.2
  · exact ⟨rfl, fun _ => rfl⟩

lemma afterRemark_suffix (h : afterRemark cs = .ok rest) : rest <:+ cs := by
  fun_induction afterRemark cs with
  | case1 =>
    cases h
    exact List.suffix_refl _
  | case2 cs =>
    cases h
    exact List.suffix_cons _ _
  | case3 c cs ih => exact (ih h).trans (suffix_cons_cons _ _ _)
  | case4 => cases h
  | case5 c cs _ _ _ ih => exact (ih h).trans (List.suffix_cons _ _)

lemma isPlain_of_readToken {c : Char} {t : Token} (h : readToken c cs = (t, rest))
    (hc : isParen c = false) : t.IsPlain := by
  have := isPlain_readToken hc cs
  rwa [h] at this

/-- What a token takes: the front of the text, with a parenthesis for each that it is. -/
lemma readToken_take {c : Char} {t : Token} (h : readToken c cs = (t, rest)) :
    ∃ w, cs = w ++ rest ∧ (t.isGrouping → isParen c) := by
  obtain ⟨w, hw⟩ : rest <:+ cs := by
    have := readToken_suffix c cs
    rwa [h] at this
  refine ⟨w, hw.symm, fun ht => ?_⟩
  cases hc : isParen c with
  | true => rfl
  | false =>
    rw [(isPlain_of_readToken h hc).isGrouping_eq] at ht
    cases ht

/-- The text has a parenthesis for each among its tokens. -/
lemma countP_tokensFrom_le (fuel : Nat) (groups : List Bool) (cs : List Char) :
    (tokensFrom fuel groups cs).countP Token.isGrouping ≤ cs.countP isParen := by
  induction fuel generalizing groups cs with
  | zero => exact Nat.zero_le _
  | succ fuel ih =>
    cases cs with
    | nil => exact Nat.le_refl _
    | cons c cs =>
      have hlater (rest : List Char) (groups : List Bool) (h : rest <:+ cs) :
          (tokensFrom fuel groups rest).countP Token.isGrouping ≤ cs.countP isParen :=
        Nat.le_trans (ih groups rest) (h.sublist.countP_le)
      have hcons : cs.countP isParen ≤ (c :: cs).countP isParen :=
        (List.sublist_cons_self c cs).countP_le
      unfold tokensFrom
      split
      · exact Nat.le_trans (hlater _ _ (List.suffix_refl _)) hcons
      · split
        · split
          · next h => exact Nat.le_trans (hlater _ _ (afterRemark_suffix h)) hcons
          · exact Nat.zero_le _
        · split
          next t rest h =>
          obtain ⟨w, hw, ht⟩ := readToken_take h
          have hle := hlater rest (verbosity t groups) ⟨w, hw.symm⟩
          rw [List.countP_cons, List.countP_cons]
          cases hg : t.isGrouping with
          | false => simp; omega
          | true => simp [ht hg]; omega

/-- A text is read as some tokens: each parenthesis opens a capture group or a plain group, or
closes one, and no other token takes a parenthesis. -/
inductive Shows : List Char → List Token → Prop
  | nil : Shows [] []
  | cons {c : Char} {w rest : List Char} {t : Token} {ts : List Token} :
      readToken c (w ++ rest) = (t, rest) → w.all (!isParen ·) → isParen c = t.isGrouping →
      Shows rest ts → Shows (c :: (w ++ rest)) (t :: ts)

/-- As many parentheses are read as are written. -/
def readsParens (cs : List Char) : Bool :=
  (tokens false cs).countP Token.isGrouping == cs.countP isParen

lemma shows_tokensFrom {fuel : Nat} {groups : List Bool} {cs : List Char} (hf : cs.length ≤ fuel)
    (hg : ∀ b ∈ groups, b = false)
    (hc : (tokensFrom fuel groups cs).countP Token.isGrouping = cs.countP isParen) :
    Shows cs (tokensFrom fuel groups cs) := by
  induction fuel generalizing groups cs with
  | zero =>
    obtain rfl := List.length_eq_zero_iff.mp (Nat.le_zero.mp hf)
    exact .nil
  | succ fuel ih =>
    cases cs with
    | nil => exact .nil
    | cons c cs =>
      have hv : groups.headD false = false := by
        cases groups with
        | nil => rfl
        | cons b groups => exact hg b List.mem_cons_self
      obtain ⟨t, rest, hr⟩ : ∃ t rest, readToken c cs = (t, rest) := ⟨_, _, rfl⟩
      have htokens : tokensFrom (fuel + 1) groups (c :: cs) =
          t :: tokensFrom fuel (verbosity t groups) rest := by
        rw [tokensFrom, hv, Bool.false_and, Bool.false_and, if_neg Bool.false_ne_true,
          if_neg Bool.false_ne_true, hr]
      rw [htokens] at hc ⊢
      obtain ⟨w, rfl, ht⟩ := readToken_take hr
      have hle := countP_tokensFrom_le fuel (verbosity t groups) rest
      have hone : (if t.isGrouping then 1 else 0) ≤ (if isParen c then 1 else 0) := by
        cases hgroup : t.isGrouping with
        | false => exact Nat.zero_le _
        | true => exact Nat.le_of_eq (by rw [ht hgroup])
      simp only [List.countP_cons, List.countP_append] at hc
      have hw : w.countP isParen = 0 := by omega
      have heq : isParen c = t.isGrouping := by
        cases hgroup : t.isGrouping with
        | true => exact ht hgroup
        | false =>
          cases hparen : isParen c with
          | false => rfl
          | true =>
            rw [hgroup, hparen, if_neg Bool.false_ne_true, if_pos rfl] at hc
            omega
      have hquiet : t.IsQuiet := by
        cases hgroup : t.isGrouping with
        | true => exact Token.isQuiet_of_isGrouping hgroup
        | false => exact .of_eq (isPlain_of_readToken hr (heq.trans hgroup)).2
      refine .cons hr ?_ heq (ih ?_ (hquiet groups hg) ?_)
      · rw [List.all_eq_true]
        intro d hd
        rw [Bool.not_eq_true']
        exact Bool.eq_false_iff.mpr (List.countP_eq_zero.mp hw d hd)
      · simp only [List.length_cons, List.length_append] at hf
        omega
      · rw [heq] at hc
        omega

/-- A text whose parentheses are all read is taken token by token. -/
theorem shows_tokens {cs : List Char} (hc : readsParens cs) : Shows cs (tokens false cs) :=
  shows_tokensFrom (Nat.le_refl _) (by simp) (beq_iff_eq.mp hc)

end ActionRouting.Regex
