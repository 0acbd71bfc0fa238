import ActionRouting.Proofs.Regex.Consumed
import ActionRouting.Proofs.Regex.Slashed

/-! Regular expressions of characters that stand for themselves and of capture groups, each of which
holds at most one level of further groups. Their text is cut into tokens where it is written: what
stands in a group is read in that group, however it is read. -/
namespace ActionRouting.Regex

open Text

/-- A character that stands for itself, or a capture group with an identifier of letters for a name
if any, that holds at most one level of further groups. -/
def Item.isNested : Item → Bool
  | char c => isLetter c
  | escaped _ => false
  | group name body => (group name body).isSeen && name.all isIdentifier

/-- The number of capture groups that are opened in a text, where a parenthesis opens a capture
group or a plain one. -/
def opensOf : List Char → Nat
  | [] => 0
  | c :: cs => opensOf cs + if c == '(' && !(['?', ':'].isPrefixOf cs) then 1 else 0

/-- The tokens that stand in a capture group, with the number of capture groups that they open;
`inner` says that a further group is open before them. -/
inductive Inside : Bool → List Token → Nat → Prop
  | nil : Inside false [] 0
  | plain {inner : Bool} {t : Token} {ts : List Token} {n : Nat} :
      t.IsPlain → Inside inner ts n → Inside inner (t :: ts) n
  | openPlain {ts : List Token} {n : Nat} :
      Inside true ts n → Inside false (.openPlain {} {} :: ts) n
  | openCapture {name : Option String} {ts : List Token} {n : Nat} :
      Inside true ts n → Inside false (.openCapture name :: ts) (n + 1)
  | close {ts : List Token} {n : Nat} : Inside false ts n → Inside true (.close :: ts) n

/-- The tokens of some items up to the end of the text. -/
inductive Cut : List Item → List Token → Prop
  | nil : Cut [] [.dollar]
  | char {c : Char} {items : List Item} {ts : List Token} :
      Cut items ts → Cut (.char c :: items) (.char c.toNat :: ts)
  | group {name : Option (List Char)} {body : List Char} {items : List Item} {us ts : List Token} :
      Inside false us (opensOf body) → Cut items ts →
      Cut (.group name body :: items)
        (.openCapture (name.map String.ofList) :: (us ++ .close :: ts))

variable {inner : Bool} {c : Char} {w u cs rest body after : List Char} {t : Token}
  {ts : List Token}

/-! ### Text without parentheses -/

lemma nests_cons (hc : isParen c = false) (cs : List Char) :
    nests inner (c :: cs) = nests inner cs := by
  simp only [isParen, Bool.or_eq_false_iff, beq_eq_false_iff_ne] at hc
  rw [nests]
  · exact fun _ => hc.1
  · exact fun _ => hc.1
  · exact fun _ => hc.2
  · exact fun _ => hc.2

lemma nests_append (hw : w.all (!isParen ·)) (cs : List Char) :
    nests inner (w ++ cs) = nests inner cs := by
  induction w with
  | nil => rfl
  | cons d w ih =>
    rw [List.all_cons, Bool.and_eq_true, Bool.not_eq_true'] at hw
    exact (nests_cons hw.1 _).trans (ih hw.2)

lemma opensOf_cons (hc : isParen c = false) (cs : List Char) : opensOf (c :: cs) = opensOf cs := by
  rw [isParen, Bool.or_eq_false_iff] at hc
  rw [opensOf, hc.1]
  rfl

lemma opensOf_append (hw : w.all (!isParen ·)) (cs : List Char) :
    opensOf (w ++ cs) = opensOf cs := by
  induction w with
  | nil => rfl
  | cons d w ih =>
    rw [List.all_cons, Bool.and_eq_true, Bool.not_eq_true'] at hw
    exact (opensOf_cons hw.1 _).trans (ih hw.2)

/-- What takes no parenthesis does not go beyond the next one that closes. -/
lemma eq_append_of_close (hw : w.all (!isParen ·)) (h : body ++ ')' :: after = w ++ rest) :
    ∃ u, body = w ++ u ∧ rest = u ++ ')' :: after := by
  induction w generalizing body with
  | nil => exact ⟨body, rfl, h.symm⟩
  | cons d w ih =>
    rw [List.all_cons, Bool.and_eq_true] at hw
    cases body with
    | nil =>
      cases h
      exact absurd hw.1 (by decide)
    | cons e body =>
      obtain ⟨rfl, htail⟩ := List.cons.inj h
      obtain ⟨u, rfl, hu⟩ := ih hw.2 htail
      exact ⟨u, rfl, hu⟩

lemma isSeen_of_isNested {i : Item} (h : i.isNested) : i.isSeen := by
  cases i with
  | char c => exact h
  | escaped c => cases h
  | group name body =>
    rw [Item.isNested, Bool.and_eq_true] at h
    exact h.1

lemma nests_of_isSeen {name : Option (List Char)} (h : (Item.group name body).isSeen) :
    nests false body := by
  cases name with
  | none =>
    rw [Item.isSeen, Bool.and_eq_true] at h
    exact h.1
  | some name =>
    rw [Item.isSeen, Bool.and_eq_true] at h
    exact h.2

/-! ### Openings -/

lemma isGrouping_readFlags (h : readFlags cs = .ok (t, rest)) : t.isGrouping = false := by
  unfold readFlags at h
  split at h
  split at h
  · cases h
  · split at h
    · split at h <;> cases h
      rfl
    · split at h
      · cases h
      · next hn =>
        cases h
        simpa [Token.isGrouping] using fun he => hn (.inl he)
    · split at h
      split at h
      · split at h
        · cases h
        · next hn =>
          cases h
          simpa [Token.isGrouping] using fun _ he => hn (.inl he)
      · cases h
    · cases h

lemma isGrouping_readCondition (h : readCondition cs = .ok (t, rest)) : t.isGrouping = false := by
  unfold readCondition at h
  dsimp only at h
  split at h
  · cases h
  · split at h
    · cases h
      rfl
    · split at h
      · cases h
      · split at h <;> cases h
        rfl

/-- A group without options is opened as a plain one, and otherwise as a capture group. -/
lemma readOpening_grouping (h : readOpening cs = .ok (t, rest)) (ht : t.isGrouping) :
    (t = .openPlain {} {} ∧ cs = '?' :: ':' :: rest) ∨
      ∃ name, t = .openCapture name ∧ ['?', ':'].isPrefixOf cs = false := by
  have hname {closing : Char} {ds : List Char} (f : String → Token)
      (h : (readGroupName closing ds >>= fun r => .ok (f r.1, r.2)) = Except.ok (t, rest)) :
      ∃ name, t = f name := by
    cases hr : readGroupName closing ds with
    | error e =>
      rw [hr] at h
      cases h
    | ok r =>
      rw [hr] at h
      cases h
      exact ⟨r.1, rfl⟩
  by_cases hq : cs.head? = some '?'
  · unfold readOpening at h
    split at h
    · obtain ⟨name, rfl⟩ := hname (fun n => .openCapture (some n)) h
      exact .inr ⟨some name, rfl, rfl⟩
    · obtain ⟨name, rfl⟩ := hname .namedReference h
      cases ht
    · cases h
      exact .inl ⟨rfl, rfl⟩
    · cases h
      cases ht
    · cases h
      cases ht
    · cases h
      cases ht
    · cases h
      cases ht
    · cases h
      cases ht
    · rw [isGrouping_readCondition h] at ht
      cases ht
    · split at h
      · cases h
        cases ht
      · cases h
    · split at h
      · rw [isGrouping_readFlags h] at ht
        cases ht
      · cases h
    · cases h
    · next hlong hshort =>
      obtain ⟨ds, rfl⟩ := List.head?_eq_some_iff.mp hq
      cases ds with
      | nil => exact absurd rfl hshort
      | cons d ds => exact absurd rfl (hlong d ds)
  · rw [readOpening_of_ne hq] at h
    cases h
    refine .inr ⟨none, rfl, ?_⟩
    cases cs with
    | nil => rfl
    | cons d ds =>
      rw [List.head?_cons, Option.some.injEq] at hq
      rw [List.isPrefixOf, beq_false_of_ne (Ne.symm hq)]
      rfl

/-! ### Cutting the text -/

/-- The text of a group and the end of the group are read inside of it. -/
lemma inside_of_shows (h : Shows (body ++ ')' :: after) ts) (hn : nests inner body) :
    ∃ us vs, ts = us ++ .close :: vs ∧ Inside inner us (opensOf body) ∧ Shows after vs := by
  generalize hcs : body ++ ')' :: after = cs at h
  induction h generalizing body inner with
  | nil => simp at hcs
  | @cons c w rest t ts hr hw hg hrest ih =>
    cases body with
    | nil =>
      obtain ⟨rfl, rfl⟩ := List.cons.inj hcs
      obtain rfl : inner = false := by simpa [nests] using hn
      obtain ⟨rfl, hend⟩ := Prod.mk.inj hr
      refine ⟨[], ts, rfl, .nil, ?_⟩
      rwa [hend]
    | cons d body =>
      obtain ⟨rfl, htail⟩ := List.cons.inj hcs
      obtain ⟨u, rfl, hu⟩ := eq_append_of_close hw htail
      cases hc : isParen d with
      | false =>
        rw [nests_cons hc, nests_append hw] at hn
        obtain ⟨us, vs, rfl, hin, hafter⟩ := ih hn hu.symm
        rw [opensOf_cons hc, opensOf_append hw]
        exact ⟨t :: us, vs, rfl, .plain (isPlain_of_readToken hr hc) hin, hafter⟩
      | true =>
        rw [hc] at hg
        rw [isParen, Bool.or_eq_true, beq_iff_eq, beq_iff_eq] at hc
        rcases hc with rfl | rfl
        · obtain rfl : inner = false := by
            cases inner with
            | false => rfl
            | true => cases hn
          have hn : nests true (w ++ u) := hn
          rw [nests_append hw] at hn
          obtain ⟨us, vs, rfl, hin, hafter⟩ := ih hn hu.symm
          have hopen := orBad_eq hr fun e he => by
            rw [he] at hg
            cases hg
          rcases readOpening_grouping hopen hg.symm with ⟨rfl, hplain⟩ | ⟨name, rfl, hcapture⟩
          · obtain rfl : w = ['?', ':'] := List.append_cancel_right hplain
            exact ⟨_ :: us, vs, rfl, .openPlain hin, hafter⟩
          · have hprefix : ['?', ':'].isPrefixOf (w ++ u) = false := by
              rw [hu, ← List.append_assoc] at hcapture
              rw [← Bool.not_eq_true, List.isPrefixOf_iff_prefix] at hcapture ⊢
              exact fun hp => hcapture (hp.trans (List.prefix_append _ _))
            refine ⟨_ :: us, vs, rfl, ?_, hafter⟩
            rw [opensOf, hprefix, opensOf_append hw]
            exact .openCapture hin
        · obtain ⟨rfl, hend⟩ := Prod.mk.inj hr
          obtain rfl : w = [] := List.append_cancel_right hend
          obtain rfl : inner = true := by
            cases inner with
            | false => cases hn
            | true => rfl
          have hn : nests false u := hn
          obtain ⟨us, vs, rfl, hin, hafter⟩ := ih hn hu.symm
          exact ⟨_ :: us, vs, rfl, .close hin, hafter⟩

/-- The first token and what it leaves. -/
lemma Shows.tail (h : Shows (c :: cs) ts) (hr : readToken c cs = (t, rest)) :
    ∃ us, ts = t :: us ∧ Shows rest us := by
  cases h with
  | cons hr' _ _ hrest =>
    obtain ⟨rfl, rfl⟩ := Prod.mk.inj (hr'.symm.trans hr)
    exact ⟨_, rfl, hrest⟩

/-- A text of characters and groups is cut item by item. -/
theorem cut_of_shows {items : List Item} (hi : ∀ i ∈ items, i.isNested)
    (h : Shows (items.flatMap Item.write ++ Ending.bare.write) ts) : Cut items ts := by
  induction items generalizing ts with
  | nil =>
    obtain ⟨us, rfl, hrest⟩ := h.tail rfl
    cases hrest
    exact .nil
  | cons i items ih =>
    obtain ⟨hfirst, hrest⟩ := List.forall_mem_cons.mp hi
    rw [List.flatMap_cons, List.append_assoc] at h
    cases i with
    | char c =>
      obtain ⟨us, rfl, hmore⟩ := h.tail (readToken_letter hfirst _)
      exact .char (ih hrest hmore)
    | escaped c => cases hfirst
    | group name body =>
      rw [Item.isNested, Bool.and_eq_true] at hfirst
      rw [Item.write_group] at h
      obtain ⟨us, rfl, hmore⟩ := h.tail (readToken_group hfirst.1 hfirst.2 _)
      obtain ⟨inside, vs, rfl, hin, hafter⟩ := inside_of_shows hmore (nests_of_isSeen hfirst.1)
      exact .group hin (ih hrest hafter)

end ActionRouting.Regex
