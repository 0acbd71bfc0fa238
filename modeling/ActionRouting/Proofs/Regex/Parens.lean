import Mathlib.Tactic.Lemma
import ActionRouting.Regex.Lexer

/-! The parentheses of a regular expression, read off its tokens and read off its text. Where sets
and extensions are of few kinds, the text shows them without its other lexical parts: only a
backslash hides a parenthesis. -/
namespace ActionRouting.Regex

inductive Paren
  | capture (name : Option String)
  | plain
  | close
  deriving DecidableEq, Repr

def Token.paren? : Token → Option Paren
  | .openCapture name => some (.capture name)
  | .openPlain _ _ | .openLook _ _ | .openAtomic | .openIfGroup _ | .openIfNamed _ => some .plain
  | .close => some .close
  | _ => none

/-- The tokens of a text, each with how many characters are left where it begins. -/
def locatedFrom : Nat → List Bool → List Char → List (Nat × Token)
  | 0, _, _ => []
  | _ + 1, _, [] => []
  | fuel + 1, groups, c :: cs =>
    if groups.headD false && Text.isAsciiBlank c then locatedFrom fuel groups cs
    else if groups.headD false && c == '#' then
      match afterRemark cs with
      | .ok rest => locatedFrom fuel groups rest
      | .error e => [(cs.length + 1, .bad e)]
    else
      let (token, rest) := readToken c cs
      (cs.length + 1, token) :: locatedFrom fuel (verbosity token groups) rest

/-- The tokens of a text, each with how many characters are left where it begins. -/
def located (verbose : Bool) (cs : List Char) : List (Nat × Token) :=
  locatedFrom cs.length [verbose] cs

lemma map_locatedFrom (fuel : Nat) (groups : List Bool) (cs : List Char) :
    (locatedFrom fuel groups cs).map (·.2) = tokensFrom fuel groups cs := by
  induction fuel generalizing groups cs with
  | zero => rfl
  | succ fuel ih =>
    cases cs with
    | nil => rfl
    | cons c cs =>
      simp only [locatedFrom, tokensFrom]
      split
      · exact ih _ _
      · split
        · cases afterRemark cs with
          | ok rest => exact ih _ _
          | error e => rfl
        · simp [ih]

theorem map_located (verbose : Bool) (cs : List Char) :
    (located verbose cs).map (·.2) = tokens verbose cs := map_locatedFrom _ _ _

def parensOf (ts : List (Nat × Token)) : List (Nat × Paren) :=
  ts.filterMap fun t => t.2.paren?.map (t.1, ·)

def Paren.capture? : Paren → Option (Option String)
  | .capture name => some name
  | _ => none

/-- The capture groups among some parentheses, each with the place where it opens. -/
def captures (ps : List (Nat × Paren)) : List (Nat × Option String) :=
  ps.filterMap fun p => p.2.capture?.map (p.1, ·)

lemma captures_cons (p : Nat × Paren) (ps : List (Nat × Paren)) :
    captures (p :: ps) = (p.2.capture?.map (p.1, ·)).toList ++ captures ps := by
  rw [captures, List.filterMap_cons]
  cases p.2.capture? <;> rfl

/-- What an opening parenthesis begins, by the text after it. -/
def opening (cs : List Char) : Paren :=
  if ['?', 'P', '<'].isPrefixOf cs then
    .capture (some (String.ofList ((cs.drop 3).takeWhile (· ≠ '>'))))
  else if ['?'].isPrefixOf cs then .plain else .capture none

lemma opening_ne_close (cs : List Char) : opening cs ≠ .close := by
  unfold opening
  split
  · simp
  · split <;> simp

/-- The parenthesis that a character is, by the text after it. -/
def parenAt? (c : Char) (cs : List Char) : Option Paren :=
  if c = '(' then some (opening cs) else if c = ')' then some .close else none

/-- The parentheses of a text that no backslash hides, each with how many characters are left where
it stands. The first character may be hidden. -/
def parensFrom : Bool → List Char → List (Nat × Paren)
  | _, [] => []
  | true, _ :: cs => parensFrom false cs
  | false, c :: cs =>
    ((parenAt? c cs).map (cs.length + 1, ·)).toList ++ parensFrom (c == '\\') cs

/-- The parentheses of a text that no backslash hides. -/
def parens (cs : List Char) : List (Nat × Paren) := parensFrom false cs

/-- After an opening parenthesis: a question mark there begins a plain group, a named one or a look
ahead. -/
def isTameOpening (cs : List Char) : Bool :=
  !(['?'].isPrefixOf cs) ||
    [['?', ':'], ['?', '='], ['?', '!'], ['?', 'P', '<']].any (·.isPrefixOf cs)

/-- After an opening bracket: the set is one that a parameter captures when it does not say. -/
def isTameSet : List Char → Bool
  | '^' :: '/' :: ']' :: _ | '^' :: '/' :: '.' :: ']' :: _ => true
  | _ => false

def isTameAt (c : Char) (cs : List Char) : Bool :=
  if c = '(' then isTameOpening cs else if c = '[' then isTameSet cs else true

/-- The sets and the extensions of a text are of few kinds. The first character may be hidden. -/
def isTameFrom : Bool → List Char → Bool
  | _, [] => true
  | true, _ :: cs => isTameFrom false cs
  | false, c :: cs => isTameAt c cs && isTameFrom (c == '\\') cs

/-- The sets and the extensions of a text are of few kinds. -/
def IsTame (cs : List Char) : Prop := isTameFrom false cs = true

/-- A character that is no parenthesis, begins no set and hides nothing. -/
def isInert (c : Char) : Bool := c != '(' && c != ')' && c != '[' && c != '\\'

lemma parenAt?_of_inert {c : Char} (h : isInert c) (cs : List Char) : parenAt? c cs = none := by
  simp only [isInert, Bool.and_eq_true, bne_iff_ne] at h
  simp [parenAt?, h]

lemma isTameAt_of_inert {c : Char} (h : isInert c) (cs : List Char) : isTameAt c cs := by
  simp only [isInert, Bool.and_eq_true, bne_iff_ne] at h
  simp [isTameAt, h]

lemma parens_inert {c : Char} (h : isInert c) (cs : List Char) : parens (c :: cs) = parens cs := by
  have hb : (c == '\\') = false := by
    simp only [isInert, Bool.and_eq_true, bne_iff_ne] at h
    simp [h]
  simp [parens, parensFrom, parenAt?_of_inert h, hb]

lemma isTame_inert {c : Char} (h : isInert c) (cs : List Char) : IsTame (c :: cs) ↔ IsTame cs := by
  have hb : (c == '\\') = false := by
    simp only [isInert, Bool.and_eq_true, bne_iff_ne] at h
    simp [h]
  simp [IsTame, isTameFrom, isTameAt_of_inert h, hb]

lemma parens_open (cs : List Char) :
    parens ('(' :: cs) = (cs.length + 1, opening cs) :: parens cs := rfl

lemma parens_close (cs : List Char) : parens (')' :: cs) = (cs.length + 1, .close) :: parens cs :=
  rfl

lemma isTame_open (cs : List Char) : IsTame ('(' :: cs) ↔ isTameOpening cs ∧ IsTame cs := by
  simp [IsTame, isTameFrom, isTameAt]

lemma isTame_close (cs : List Char) : IsTame (')' :: cs) ↔ IsTame cs := by
  simp [IsTame, isTameFrom, isTameAt]

lemma parens_escape (c : Char) (cs : List Char) : parens ('\\' :: c :: cs) = parens cs := rfl

lemma isTame_escape (c : Char) (cs : List Char) : IsTame ('\\' :: c :: cs) ↔ IsTame cs := Iff.rfl

/-- A rest of a text, with nothing but inert characters before it. -/
inductive Skips : List Char → List Char → Prop
  | refl (cs : List Char) : Skips cs cs
  | cons {c : Char} {cs rest : List Char} : isInert c → Skips cs rest → Skips (c :: cs) rest

lemma isInert_of {p : Char → Bool} (hp : ['(', ')', '[', '\\'].all (!p ·)) {c : Char} (h : p c) :
    isInert c := by
  simp only [List.all_cons, List.all_nil, Bool.and_true, Bool.and_eq_true, Bool.not_eq_true'] at hp
  obtain ⟨ho, hc, hb, he⟩ := hp
  have hne {d : Char} (hd : p d = false) : c ≠ d := fun e => by simp [← e, h] at hd
  simp [isInert, hne ho, hne hc, hne hb, hne he]

namespace Skips

variable {cs ds rest : List Char}

lemma trans (h : Skips cs ds) (h' : Skips ds rest) : Skips cs rest := by
  induction h with
  | refl => exact h'
  | cons hc _ ih => exact .cons hc (ih h')

lemma parens_eq (h : Skips cs rest) : parens cs = parens rest := by
  induction h with
  | refl => rfl
  | cons hc _ ih => rw [parens_inert hc, ih]

lemma isTame_iff (h : Skips cs rest) : IsTame cs ↔ IsTame rest := by
  induction h with
  | refl => exact Iff.rfl
  | cons hc _ ih => exact (isTame_inert hc _).trans ih

lemma length_le (h : Skips cs rest) : rest.length ≤ cs.length := by
  induction h with
  | refl => exact Nat.le_refl _
  | cons _ _ ih => exact Nat.le_succ_of_le ih

lemma append (h : cs.all isInert) : Skips (cs ++ rest) rest := by
  induction cs with
  | nil => exact .refl _
  | cons c cs ih =>
    simp only [List.all_cons, Bool.and_eq_true] at h
    exact .cons h.1 (ih h.2)

lemma drop {n : Nat} (h : (cs.take n).all isInert) : Skips cs (cs.drop n) := by
  have hs : Skips (cs.take n ++ cs.drop n) (cs.drop n) := append h
  rwa [List.take_append_drop] at hs

lemma all_takeWhile {p : Char → Bool} (hp : ∀ c, p c → isInert c) (cs : List Char) :
    (cs.takeWhile p).all isInert := by
  have h := List.all_eq_true.mp (List.all_takeWhile (p := p) (l := cs))
  exact List.all_eq_true.mpr fun c hc => hp c (h c hc)

lemma of_dropWhile {p : Char → Bool} {c : Char} (hd : cs.dropWhile p = c :: rest)
    (hp : (cs.takeWhile p).all isInert) (hc : isInert c) : Skips cs rest := by
  rw [← List.takeWhile_append_dropWhile (p := p) (l := cs), hd]
  exact (append hp).trans (.cons hc (.refl _))

end Skips

lemma isPrefixOf_append_close {w : List Char} (hw : ')' ∉ w) (u v : List Char) :
    w.isPrefixOf (u ++ ')' :: v) = w.isPrefixOf (u ++ [')']) := by
  induction w generalizing u with
  | nil => simp
  | cons c w ih =>
    obtain ⟨hc, hw⟩ := List.ne_and_not_mem_of_not_mem_cons hw
    cases u with
    | nil =>
      have hb : (c == ')') = false := by simpa using hc.symm
      simp [List.isPrefixOf, hb]
    | cons d u => simp [List.isPrefixOf, ih hw]

lemma isTameOpening_append_close (u v : List Char) :
    isTameOpening (u ++ ')' :: v) = isTameOpening (u ++ [')']) := by
  simp only [isTameOpening, List.any_cons, List.any_nil, Bool.or_false]
  rw [isPrefixOf_append_close (by decide) u v, isPrefixOf_append_close (by decide) u v,
    isPrefixOf_append_close (by decide) u v, isPrefixOf_append_close (by decide) u v,
    isPrefixOf_append_close (by decide) u v]

lemma capture?_opening_append_close (u v : List Char) :
    (opening (u ++ ')' :: v)).capture?.isSome = (opening (u ++ [')'])).capture?.isSome := by
  rw [opening, opening, isPrefixOf_append_close (by decide) u v,
    isPrefixOf_append_close (by decide) u v]
  split
  · rfl
  · split <;> rfl

/-- No parenthesis of a text shows, and the text hides nothing after it. Its first character may be
hidden. -/
def isSilentFrom : Bool → List Char → Bool
  | hidden, [] => !hidden
  | true, _ :: cs => isSilentFrom false cs
  | false, c :: cs => c != '(' && c != ')' && isSilentFrom (c == '\\') cs

lemma parensFrom_silent {hidden : Bool} {u : List Char} (h : isSilentFrom hidden u)
    (v : List Char) : parensFrom hidden (u ++ v) = parens v := by
  induction u generalizing hidden with
  | nil =>
    obtain rfl : hidden = false := by simpa [isSilentFrom] using h
    rfl
  | cons c u ih =>
    cases hidden with
    | true => exact ih h
    | false =>
      simp only [isSilentFrom, Bool.and_eq_true, bne_iff_ne] at h
      obtain ⟨⟨ho, hc⟩, hu⟩ := h
      simp [parensFrom, parenAt?, ho, hc, ih hu]

lemma isTameFrom_silent {hidden : Bool} {u : List Char} (h : isSilentFrom hidden u)
    (hb : '[' ∉ u) (v : List Char) : isTameFrom hidden (u ++ v) = isTameFrom false v := by
  induction u generalizing hidden with
  | nil =>
    obtain rfl : hidden = false := by simpa [isSilentFrom] using h
    rfl
  | cons c u ih =>
    obtain ⟨hcb, hub⟩ := List.ne_and_not_mem_of_not_mem_cons hb
    cases hidden with
    | true => exact ih h hub
    | false =>
      simp only [isSilentFrom, Bool.and_eq_true, bne_iff_ne] at h
      obtain ⟨⟨ho, hc⟩, hu⟩ := h
      simp [isTameFrom, isTameAt, ho, hcb.symm, ih hu hub]

/-- A closing parenthesis at the end of a text without others closes at most one group, and if it
closes one more than the text opens, the text is silent. -/
lemma silent_of_countP (hidden : Bool) {u : List Char} (hu : ')' ∉ u) :
    (parensFrom hidden (u ++ [')'])).countP (·.2 = .close) ≤ 1 ∧
      ((parensFrom hidden (u ++ [')'])).countP (·.2 = .close) =
        (parensFrom hidden (u ++ [')'])).countP (·.2 ≠ .close) + 1 → isSilentFrom hidden u) := by
  induction u generalizing hidden with
  | nil => cases hidden <;> simp [parensFrom, parenAt?, isSilentFrom]
  | cons c u ih =>
    obtain ⟨hc, hrest⟩ := List.ne_and_not_mem_of_not_mem_cons hu
    cases hidden with
    | true => exact ih false hrest
    | false =>
      by_cases ho : c = '('
      · subst ho
        have hp : parensFrom false ('(' :: u ++ [')']) =
          ((u ++ [')']).length + 1, opening (u ++ [')'])) :: parensFrom false (u ++ [')']) := rfl
        have hne := opening_ne_close (u ++ [')'])
        have := (ih false hrest).1
        rw [hp, List.countP_cons_of_neg (by simpa using hne), List.countP_cons_of_pos (by simpa)]
        exact ⟨this, fun h => absurd h (by omega)⟩
      · have := ih (c == '\\') hrest
        simpa [parensFrom, parenAt?, ho, hc.symm, isSilentFrom] using this

end ActionRouting.Regex
