import ActionRouting.Proofs.Path.Atoms

/-! The regular expression that a path of atoms is compiled to. Every atom is read as one set of
characters or as one capture group, whatever stands around it. -/
namespace ActionRouting

namespace Path

open Text Regex

variable {a : Atom} {as : List Atom} {u rest name : List Char}

section Lexes

variable {ts : List Token}

lemma punctuation_facts : punctuation.all fun c => (control? c).isNone && (category? c).isNone &&
    !c.isDigit && !c.isAlpha && !(['A', 'Z', 'b', 'B', 'x', 'u', 'U', 'N', '0'].contains c) := by
  decide

/-- Escaped punctuation stands for itself. -/
lemma readEscape_punctuation {c : Char} (h : punctuation.contains c) (cs : List Char) :
    readEscape (c :: cs) = .ok (.char c.toNat, cs) := by
  have hall := List.all_eq_true.mp punctuation_facts c (List.contains_iff_mem.mp h)
  simp only [Bool.and_eq_true, Bool.not_eq_true', Option.isNone_iff_eq_none] at hall
  obtain ⟨⟨⟨⟨hcontrol, hcategory⟩, hdigit⟩, halpha⟩, hnames⟩ := hall
  simp only [List.contains_eq_mem, decide_eq_false_iff_not, List.mem_cons, List.not_mem_nil,
    or_false, not_or] at hnames
  simp [readEscape, hcontrol, hcategory, hdigit, halpha, hnames]

/-- A member of a set that does not begin a range. -/
lemma readMembers_member {c : Char} {cs : List Char} {m : Member} {found : List Member} {fuel : Nat}
    (hb : c ≠ ']') (hm : readMember (c :: cs) = .ok (m, rest)) (hr : rest.head? ≠ some '-') :
    readMembers (fuel + 1) found (c :: cs) = readMembers fuel (m :: found) rest := by
  rw [readMembers, if_neg fun h => hb h.1, hm]
  simp only [bind, Except.bind]
  split
  · exact absurd rfl hr
  · exact absurd rfl hr
  · exact absurd rfl hr
  · rfl

/-- A member of a set that is no bracket, no backslash and no beginning of a range. -/
lemma readMembers_char {c : Char} {cs : List Char} {found : List Member} {fuel : Nat}
    (hb : c ≠ ']') (hs : c ≠ '\\') (hr : cs.head? ≠ some '-') :
    readMembers (fuel + 1) found (c :: cs) = readMembers fuel (.char c.toNat :: found) cs := by
  refine readMembers_member hb ?_ hr
  unfold readMember
  split
  · next heq => cases heq
  · next heq => exact absurd (List.cons.inj heq).1 hs
  · next heq =>
    cases heq
    rfl

lemma readMembers_dot {cs : List Char} {found : List Member} {fuel : Nat}
    (hr : cs.head? ≠ some '-') :
    readMembers (fuel + 1) found ('\\' :: '.' :: cs) = readMembers fuel (.char 46 :: found) cs :=
  readMembers_member (by decide) rfl hr

/-- A class begins with one of its members, a backslash, or its closing bracket. -/
lemma head?_classText (hu : u.all isClassChar) (rest : List Char) {d : Char}
    (hd : d ∈ ['-', '^']) : (classText u ++ ']' :: rest).head? ≠ some d := by
  obtain ⟨hclass, hclose, hopen, hescape⟩ :
      isClassChar d = false ∧ d ≠ ']' ∧ d ≠ '(' ∧ d ≠ '\\' := by
    rw [List.mem_pair] at hd
    obtain rfl | rfl := hd <;> decide
  cases u with
  | nil => simpa [classText] using hclose.symm
  | cons c u =>
    rw [List.all_cons, Bool.and_eq_true] at hu
    have hc : c ≠ d := isClassChar_ne hu.1 hclass
    by_cases hstar : c = '*'
    · simpa [classText, hstar] using hopen.symm
    · by_cases hdot : c = '.'
      · simpa [classText, hdot] using hescape.symm
      · simpa [classText, hstar, hdot] using hc

/-- The members of a class are read up to its closing bracket. -/
lemma readMembers_class (hu : u.all isClassChar) {found : List Member} {fuel : Nat}
    (hne : u ≠ [] ∨ found ≠ []) (hf : (classText u).length < fuel) :
    readMembers fuel found (classText u ++ ']' :: rest) =
      .ok (found.reverse ++ membersOf u, rest) := by
  induction u generalizing found fuel with
  | nil =>
    obtain ⟨fuel, rfl⟩ := Nat.exists_eq_succ_of_ne_zero (Nat.ne_of_gt (Nat.zero_lt_of_lt hf))
    have hfound : found ≠ [] := hne.resolve_left (by simp)
    rw [classText, List.flatMap_nil, List.nil_append, readMembers, if_pos ⟨rfl, hfound⟩]
    simp [membersOf, spread]
  | cons c u ih =>
    rw [List.all_cons, Bool.and_eq_true] at hu
    have hhead := head?_classText hu.2 rest (d := '-') (by decide)
    by_cases hstar : c = '*'
    · subst hstar
      have hsplit : classText ('*' :: u) = '(' :: '.' :: '*' :: ')' :: classText u := rfl
      rw [hsplit] at hf
      simp only [List.length_cons] at hf
      obtain ⟨fuel, rfl⟩ := Nat.exists_eq_add_of_le' (show 4 ≤ fuel by omega)
      rw [hsplit]
      simp only [List.cons_append]
      rw [readMembers_char (by decide) (by decide) (by simp),
        readMembers_char (by decide) (by decide) (by simp),
        readMembers_char (by decide) (by decide) (by simp),
        readMembers_char (by decide) (by decide) hhead, ih hu.2 (.inr (by simp)) (by omega)]
      simp [membersOf, spread]
    · by_cases hdot : c = '.'
      · subst hdot
        have hsplit : classText ('.' :: u) = '\\' :: '.' :: classText u := rfl
        rw [hsplit] at hf
        simp only [List.length_cons] at hf
        obtain ⟨fuel, rfl⟩ := Nat.exists_eq_add_of_le' (show 1 ≤ fuel by omega)
        rw [hsplit, List.cons_append, List.cons_append, readMembers_dot hhead,
          ih hu.2 (.inr (by simp)) (by omega)]
        simp [membersOf, spread]
      · have hsplit : classText (c :: u) = c :: classText u := by simp [classText, hstar, hdot]
        rw [hsplit] at hf
        simp only [List.length_cons] at hf
        obtain ⟨fuel, rfl⟩ := Nat.exists_eq_add_of_le' (show 1 ≤ fuel by omega)
        rw [hsplit, List.cons_append, readMembers_char (isClassChar_ne hu.1 (by decide))
          (isClassChar_ne hu.1 (by decide)) hhead, ih hu.2 (.inr (by simp)) (by omega)]
        simp [membersOf, spread, hstar]

lemma readToken_class (hu : u.all isClassChar) (hne : u ≠ []) (rest : List Char) :
    readToken '[' (classText u ++ ']' :: rest) = (.set false (membersOf u), rest) := by
  have hread : readMembers ((classText u ++ ']' :: rest).length + 1) []
      (classText u ++ ']' :: rest) = .ok (membersOf u, rest) :=
    readMembers_class hu (.inl hne) (by rw [List.length_append]; omega)
  have hcaret := head?_classText hu rest (d := '^') (by decide)
  have hset : readSet (classText u ++ ']' :: rest) = .ok (.set false (membersOf u), rest) := by
    unfold readSet
    split
    · next heq =>
      rw [heq] at hcaret
      exact absurd rfl hcaret
    · rw [hread]
      rfl
  rw [readToken, hset]
  rfl

lemma lexes_hole (hr : endsPart rest) (h : Lexes rest ts) :
    Lexes ((Atom.hole name).expression ++ rest) ((Atom.hole name).tokens ++ ts) :=
  lexes_image rfl rfl (fun _ => hr) h

lemma lexes_atom (hv : a.isValid) (hr : endsPart rest) (h : Lexes rest ts) :
    Lexes (a.expression ++ rest) (a.tokens ++ ts) := by
  cases a with
  | char c =>
    have hread : readToken c rest = (.char c.toNat, rest) := by
      rcases isFree_or_slash hv with hc | rfl
      · exact readToken_free hc rest
      · rfl
    exact .cons hread (Nat.le_refl _) (isQuiet_char _) h
  | escape c =>
    have hread : readToken '\\' (c :: rest) = (.char c.toNat, rest) := by
      rw [readToken, readEscape_punctuation hv]
      rfl
    exact .cons hread (Nat.le_succ _) (isQuiet_char _) h
  | set u =>
    obtain ⟨hne, hu⟩ := Bool.and_eq_true_iff.mp hv
    have hread := readToken_class hu (by simpa using hne) rest
    have := Lexes.cons hread (by simp; omega) (.of_eq fun _ => rfl) h
    simpa [Atom.expression, Atom.tokens] using this
  | hole name => exact lexes_hole hr h

lemma endsPart_atom (hv : a.isValid) (rest : List Char) : endsPart (a.expression ++ rest) := by
  cases a with
  | char c =>
    rcases isFree_or_slash hv with hc | rfl
    · simp [Atom.expression, endsPart, isFree_ne hc (d := '?') (by decide),
        isFree_ne hc (d := '+') (by decide)]
    · rfl
  | _ => rfl

/-- The regular expression of a path of atoms is read atom by atom. -/
theorem lexes_atoms (hv : as.all Atom.isValid) (hr : endsPart rest) (h : Lexes rest ts) :
    Lexes (as.flatMap Atom.expression ++ rest) (as.flatMap Atom.tokens ++ ts) := by
  induction as with
  | nil => exact h
  | cons a as ih =>
    rw [List.all_cons, Bool.and_eq_true] at hv
    have hrest : endsPart (as.flatMap Atom.expression ++ rest) := by
      cases as with
      | nil => exact hr
      | cons b as =>
        have := (Bool.and_eq_true_iff.mp hv.2).1
        rw [List.flatMap_cons, List.append_assoc]
        exact endsPart_atom this _
    rw [List.flatMap_cons, List.flatMap_cons, List.append_assoc, List.append_assoc]
    exact lexes_atom hv.1 hrest (ih hv.2)

end Lexes

section Adds

variable {q : Parser} {b : Bool}

/-- A set of characters. -/
lemma adds_set (hf : q.frame.flags = { ignoreCase := b }) (members : List Member) :
    q.Adds [.set false members] [.chars ⟨false, members.eraseDups, casingOf b, false⟩] 0 := by
  refine ⟨[.single (.chars ⟨false, members.eraseDups, casingOf b, false⟩)], [], ?_, rfl, rfl⟩
  simp [Parser.step, Parser.pushChars, Parser.push, Parser.grown, Parser.run, hf]
  rfl

lemma adds_atom (hf : q.frame.flags = { ignoreCase := b }) (hd : q.depth ≤ 98) (a : Atom) :
    q.Adds a.tokens (atomNodes (casingOf b) q.groups.length [a]) (holeNames [a]).length := by
  cases a with
  | char c | escape c => exact adds_lead hf true c
  | set u => exact adds_set hf (membersOf u)
  | hole name => exact adds_param hf hd (Atom.param name)

lemma atomNodes_cons (casing : Casing) (count : Nat) (a : Atom) (as : List Atom) :
    atomNodes casing count (a :: as) = atomNodes casing count [a] ++
      atomNodes casing (count + (holeNames [a]).length) as := by
  cases a <;> rfl

lemma length_holeNames_cons (a : Atom) (as : List Atom) :
    (holeNames (a :: as)).length = (holeNames [a]).length + (holeNames as).length := by
  rw [← List.length_append]
  cases a <;> rfl

/-- The parts of a path of atoms are added one after the other. -/
theorem adds_atoms (hf : q.frame.flags = { ignoreCase := b }) (hd : q.depth ≤ 98)
    (as : List Atom) : q.Adds (as.flatMap Atom.tokens)
      (atomNodes (casingOf b) q.groups.length as) (holeNames as).length := by
  induction as generalizing q with
  | nil => exact .nil q
  | cons a as ih =>
    rw [List.flatMap_cons, atomNodes_cons, length_holeNames_cons a as]
    refine (adds_atom hf hd a).append fun parts widths hw => ?_
    have := ih (q := q.grown parts widths) hf hd
    rwa [Parser.grown_groups, List.length_append, hw] at this

end Adds

lemma isBasic_atomNodes (casing : Casing) (count : Nat) (as : List Atom) :
    (atomNodes casing count as).all Node.isBasic := by
  induction as generalizing count with
  | nil => rfl
  | cons a as ih =>
    rw [atomNodes_cons, List.all_append, ih, Bool.and_true]
    cases a with
    | hole name => exact isBasic_nodes (Atom.param []) casing (count + 1)
    | _ => rfl

/-- The pattern of a path of atoms. The class counts in its slots, and not in the groups of its
regular expression. -/
def atomPattern (caseSensitive strict : Bool) (as : List Atom) : Pattern where
  spec := .text (String.ofList (atomPath as))
  source := (matcherOf (!caseSensitive) strict (as.flatMap Atom.expression)
    (atomNodes (casingOf !caseSensitive) 0 as) (holeNames as).length).source
  matcher := matcherOf (!caseSensitive) strict (as.flatMap Atom.expression)
    (atomNodes (casingOf !caseSensitive) 0 as) (holeNames as).length
  slots := atomSlots as

/-- A path of atoms is compiled to its parts. -/
theorem compile_atoms (caseSensitive strict : Bool) (h : isAtomic as) :
    Pattern.compile caseSensitive strict (.text (String.ofList (atomPath as))) =
      .ok (atomPattern caseSensitive strict as) := by
  have hv : as.all Atom.isValid := (Bool.and_eq_true_iff.mp h).1
  have hcompile := compile_path (b := !caseSensitive) strict
    (fun rest us hr h => lexes_atoms hv hr h)
    (fun q hf hq hn => by
      have := adds_atoms hf (by omega) as
      rwa [hn] at this)
    (isBasic_atomNodes _ 0 as)
  rw [Pattern.compile, Pattern.ofText, String.toList_ofList, (yields_atomPath h).pieces_eq]
  simp only [bind, Except.bind]
  rw [hcompile]
  rfl

end Path

end ActionRouting
