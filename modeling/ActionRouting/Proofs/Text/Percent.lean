import ActionRouting.Proofs.Text.LetterCase
import ActionRouting.Text.Percent

/-! What is encoded is decoded again: a text through its bytes in UTF-8, and a segment of a path
through its percent coding. -/
namespace ActionRouting.Text

namespace Utf8

lemma toNat_toUInt8 {n : Nat} (h : n < 256) : n.toUInt8.toNat = n := by
  simp [Nat.mod_eq_of_lt h]

lemma char_lt (c : Char) : c.toNat < 0xD800 ∨ 0xDFFF < c.toNat ∧ c.toNat < 0x110000 := c.valid

/-- A further byte of a character. -/
lemma continuation_cons {need lo hi bits b : Nat} (hlo : lo ≤ b) (hhi : b ≤ hi) (hb : b < 256)
    (bytes : List UInt8) : continuation (need + 1) lo hi bits (b.toUInt8 :: bytes) =
      continuation need 0x80 0xBF (bits * 64 + (b - 0x80)) bytes := by
  rw [continuation, toNat_toUInt8 hb, if_pos ⟨hlo, hhi⟩]

lemma continuation_zero (c : Char) {bits : Nat} (h : bits = c.toNat) (bytes : List UInt8) :
    continuation 0 0x80 0xBF bits bytes = (some c, bytes) := by
  rw [continuation, h, Char.ofNat_toNat]

/-- The bytes of a character are read as that character. -/
theorem decodeChar_encodeChar (c : Char) : ∃ first rest, encodeChar c = first :: rest ∧
    ∀ bytes, decodeChar first (rest ++ bytes) = (some c, bytes) := by
  have hc := char_lt c
  unfold encodeChar
  dsimp only
  generalize hn : c.toNat = n at hc
  split
  · refine ⟨_, _, rfl, fun bytes => ?_⟩
    rw [decodeChar, toNat_toUInt8 (by omega)]
    simp only [List.nil_append, if_pos ‹n < 128›]
    rw [← hn, Char.ofNat_toNat]
  split
  · refine ⟨_, _, rfl, fun bytes => ?_⟩
    rw [decodeChar, toNat_toUInt8 (by omega)]
    simp only [List.cons_append, List.nil_append]
    rw [if_neg (by omega), if_neg (by omega), if_pos (by omega),
      continuation_cons (by omega) (by omega) (by omega), continuation_zero c (by omega)]
  split
  · refine ⟨_, _, rfl, fun bytes => ?_⟩
    rw [decodeChar, toNat_toUInt8 (by omega)]
    simp only [List.cons_append, List.nil_append]
    rw [if_neg (by omega), if_neg (by omega), if_neg (by omega), if_pos (by omega),
      continuation_cons (by split <;> omega) (by split <;> omega) (by omega),
      continuation_cons (by omega) (by omega) (by omega), continuation_zero c (by omega)]
  · refine ⟨_, _, rfl, fun bytes => ?_⟩
    rw [decodeChar, toNat_toUInt8 (by omega)]
    simp only [List.cons_append, List.nil_append]
    rw [if_neg (by omega), if_neg (by omega), if_neg (by omega), if_neg (by omega),
      if_pos (by omega), continuation_cons (by split <;> omega) (by split <;> omega) (by omega),
      continuation_cons (by omega) (by omega) (by omega),
      continuation_cons (by omega) (by omega) (by omega), continuation_zero c (by omega)]

lemma pieces_encode (cs : List Char) {fuel : Nat} (hf : (encode cs).length ≤ fuel) :
    pieces fuel (encode cs) = cs.map some := by
  induction cs generalizing fuel with
  | nil => cases fuel <;> rfl
  | cons c cs ih =>
    obtain ⟨first, rest, he, hd⟩ := decodeChar_encodeChar c
    have hbytes : encode (c :: cs) = first :: (rest ++ encode cs) := by
      rw [encode, List.flatMap_cons, he, List.cons_append]
      rfl
    rw [hbytes] at hf ⊢
    cases fuel with
    | zero => simp at hf
    | succ fuel =>
      simp only [List.length_cons, List.length_append] at hf
      rw [pieces, hd]
      exact congrArg _ (ih (by omega))

theorem decodeLossy_encode (cs : List Char) : decodeLossy (encode cs) = cs := by
  rw [decodeLossy, pieces_encode cs (Nat.le_refl _), List.map_map]
  exact List.map_id cs

/-- The bytes of a text spell it. -/
theorem decode?_encode (cs : List Char) : decode? (encode cs) = some cs := by
  rw [decode?, pieces_encode cs (Nat.le_refl _)]
  induction cs with
  | nil => rfl
  | cons c cs ih => simp [ih]

end Utf8

namespace Percent

lemma hexValue?_hexDigit {d : Nat} (h : d < 16) : hexValue? (hexDigit d) = some d := by
  have : ∀ d : Fin 16, hexValue? (hexDigit d) = some d.val := by decide
  exact this ⟨d, h⟩

lemma decodeFrom_escapeByte (pending : List UInt8) (b : UInt8) (cs : List Char) :
    decodeFrom pending (escapeByte b ++ cs) = decodeFrom (b :: pending) cs := by
  have hb : b.toNat < 256 := b.toNat_lt
  have hv : (b.toNat / 16 * 16 + b.toNat % 16).toUInt8 = b := by
    rw [show b.toNat / 16 * 16 + b.toNat % 16 = b.toNat by omega]
    simp
  simp only [escapeByte, List.cons_append, List.nil_append, decodeFrom]
  rw [hexValue?_hexDigit (by omega), hexValue?_hexDigit (by omega)]
  exact congrArg (fun b => decodeFrom (b :: pending) cs) hv

lemma decodeFrom_escapeBytes (pending bs : List UInt8) (cs : List Char) :
    decodeFrom pending (bs.flatMap escapeByte ++ cs) = decodeFrom (bs.reverse ++ pending) cs := by
  induction bs generalizing pending with
  | nil => rfl
  | cons b bs ih =>
    rw [List.flatMap_cons, List.append_assoc, decodeFrom_escapeByte, ih, List.reverse_cons,
      List.append_assoc, List.singleton_append]

lemma decodeFrom_ascii {c : Char} (hc : c.toNat < 128) (hp : c ≠ '%') (pending : List UInt8)
    (cs : List Char) :
    decodeFrom pending (c :: cs) = decodeFrom (c.toNat.toUInt8 :: pending) cs := by
  rw [decodeFrom]
  · exact if_pos hc
  · exact fun _ _ _ h => absurd h hp

lemma isUnreserved_ascii {c : Char} (h : isUnreserved c) : c.toNat < 128 ∧ c ≠ '%' := by
  constructor
  · simp only [isUnreserved, Bool.or_eq_true, beq_iff_eq] at h
    rcases h with (((h | rfl) | rfl) | rfl) | rfl
    · exact lt_of_isAlphanum h
    all_goals decide
  · rintro rfl
    exact absurd h (by decide)

section Safe

variable {safe : Char → Bool}

/-- An encoded text leaves its bytes to what is behind it. -/
lemma decodeFrom_encode (hs : ∀ c, safe c → c.toNat < 128 ∧ c ≠ '%') (pending : List UInt8)
    (cs rest : List Char) : decodeFrom pending (encode safe cs ++ rest) =
      decodeFrom ((Utf8.encode cs).reverse ++ pending) rest := by
  induction cs generalizing pending with
  | nil => rfl
  | cons c cs ih =>
    have hsplit : encode safe (c :: cs) = encodeChar safe c ++ encode safe cs := by
      simp [encode]
    have hbytes : Utf8.encode (c :: cs) = Utf8.encodeChar c ++ Utf8.encode cs := by
      simp [Utf8.encode]
    rw [hsplit, hbytes, List.append_assoc, encodeChar]
    split
    · next hkept =>
      obtain ⟨hlt, hne⟩ : c.toNat < 128 ∧ c ≠ '%' := by
        rcases (Bool.or_eq_true _ _).mp hkept with hu | hc
        · exact isUnreserved_ascii hu
        · exact hs c hc
      have hone : Utf8.encodeChar c = [c.toNat.toUInt8] := by
        simp [Utf8.encodeChar, hlt]
      rw [List.singleton_append, decodeFrom_ascii hlt hne, ih, hone]
      simp
    · rw [decodeFrom_escapeBytes, ih]
      simp

/-- A text is decoded to what it encodes, if the characters declared safe are in ASCII and no
percent sign is. -/
theorem decode_encode (hs : ∀ c, safe c → c.toNat < 128 ∧ c ≠ '%') (cs : List Char) :
    decode (encode safe cs) = cs := by
  have h := decodeFrom_encode hs [] cs []
  rw [List.append_nil, List.append_nil, decodeFrom, List.reverse_reverse] at h
  exact h.trans (Utf8.decodeLossy_encode cs)

/-- The same, with one more character of ASCII that stands for itself. -/
lemma decode_encode_concat (hs : ∀ c, safe c → c.toNat < 128 ∧ c ≠ '%') {c : Char}
    (hc : c.toNat < 128) (hp : c ≠ '%') (cs : List Char) :
    decode (encode safe cs ++ [c]) = cs ++ [c] := by
  have hbytes : Utf8.encode cs ++ [c.toNat.toUInt8] = Utf8.encode (cs ++ [c]) := by
    simp [Utf8.encode, Utf8.encodeChar, hc]
  rw [decode, decodeFrom_encode hs, List.append_nil, decodeFrom_ascii hc hp, decodeFrom,
    List.reverse_cons, List.reverse_reverse, hbytes, Utf8.decodeLossy_encode]

end Safe

/-- A segment is decoded to what it encodes. -/
theorem decode_encodeSegment (cs : List Char) : decode (encodeSegment cs) = cs :=
  decode_encode (fun _ hc => absurd hc Bool.false_ne_true) cs

/-- A segment with one more character behind it. -/
lemma decode_encodeSegment_concat {c : Char} (hc : c.toNat < 128) (hp : c ≠ '%') (cs : List Char) :
    decode (encodeSegment cs ++ [c]) = cs ++ [c] :=
  decode_encode_concat (fun _ hs => absurd hs Bool.false_ne_true) hc hp cs

/-- The rest of a path is decoded to what it encodes. -/
theorem decode_encodePath (cs : List Char) : decode (encodePath cs) = cs := by
  refine decode_encode (fun c hc => ?_) cs
  obtain rfl := beq_iff_eq.mp hc
  decide

def isSegmentChar (c : Char) : Bool := isUnreserved c || c == '%'

lemma isUnreserved_hexDigit {d : Nat} (h : d < 16) :
    isUnreserved (hexDigit d) ∧ hexDigit d ≠ '.' := by
  have : ∀ d : Fin 16, isUnreserved (hexDigit d) ∧ hexDigit d ≠ '.' := by decide
  exact this ⟨d, h⟩

lemma mem_escapeByte {b : UInt8} {c : Char} (h : c ∈ escapeByte b) :
    isSegmentChar c ∧ c ≠ '.' := by
  have hb : b.toNat < 256 := b.toNat_lt
  simp only [escapeByte, List.mem_cons, List.not_mem_nil, or_false] at h
  rcases h with rfl | rfl | rfl
  · decide
  · have hd := isUnreserved_hexDigit (d := b.toNat / 16) (by omega)
    exact ⟨by simp [isSegmentChar, hd.1], hd.2⟩
  · have hd := isUnreserved_hexDigit (d := b.toNat % 16) (by omega)
    exact ⟨by simp [isSegmentChar, hd.1], hd.2⟩

lemma mem_encodeSegment {cs : List Char} {c : Char} (h : c ∈ encodeSegment cs) :
    isSegmentChar c ∧ (c = '.' → '.' ∈ cs) := by
  obtain ⟨d, hd, hc⟩ := List.mem_flatMap.mp h
  rw [encodeChar, Bool.or_false] at hc
  split at hc
  · next hu =>
    obtain rfl := List.mem_singleton.mp hc
    exact ⟨by simp [isSegmentChar, hu], fun he => he ▸ hd⟩
  · obtain ⟨b, -, hb⟩ := List.mem_flatMap.mp hc
    exact ⟨(mem_escapeByte hb).1, fun he => absurd he (mem_escapeByte hb).2⟩

/-- A character that the rest of a path may have: one of a segment, or a slash. -/
lemma mem_encodePath {cs : List Char} {c : Char} (h : c ∈ encodePath cs) :
    isSegmentChar c ∨ c = '/' := by
  obtain ⟨d, -, hc⟩ := List.mem_flatMap.mp h
  rw [encodeChar] at hc
  split at hc
  · next hkept =>
    obtain rfl := List.mem_singleton.mp hc
    rcases (Bool.or_eq_true _ _).mp hkept with hu | hs
    · exact .inl (by simp [isSegmentChar, hu])
    · exact .inr (beq_iff_eq.mp hs)
  · obtain ⟨b, -, hb⟩ := List.mem_flatMap.mp hc
    exact .inl (mem_escapeByte hb).1

/-- Without slashes, a text is encoded as a segment. -/
lemma encodePath_eq_encodeSegment {cs : List Char} (h : '/' ∉ cs) :
    encodePath cs = encodeSegment cs := by
  induction cs with
  | nil => rfl
  | cons c cs ih =>
    obtain ⟨hc, hcs⟩ := List.ne_and_not_mem_of_not_mem_cons h
    have hchar : encodeChar (· == '/') c = encodeChar (fun _ => false) c := by
      rw [encodeChar, encodeChar, beq_false_of_ne hc.symm]
    change encodeChar _ c ++ encodePath cs = encodeChar _ c ++ encodeSegment cs
    rw [hchar, ih hcs]

/-- A text of slashes and characters that stand for themselves is encoded as it is. -/
lemma encodePath_eq_self {cs : List Char} (h : ∀ c ∈ cs, isUnreserved c ∨ c = '/') :
    encodePath cs = cs := by
  induction cs with
  | nil => rfl
  | cons c cs ih =>
    obtain ⟨hc, hcs⟩ := List.forall_mem_cons.mp h
    have hkept : (isUnreserved c || c == '/') = true := by
      rwa [Bool.or_eq_true, beq_iff_eq]
    change encodeChar _ c ++ encodePath cs = c :: cs
    rw [encodeChar, if_pos hkept, ih hcs, List.singleton_append]

lemma decode_eq_self {cs : List Char} (h : ∀ c ∈ cs, isUnreserved c ∨ c = '/') :
    decode cs = cs := by
  calc decode cs = decode (encodePath cs) := by rw [encodePath_eq_self h]
    _ = cs := decode_encodePath cs

/-- Texts with slashes between them are encoded one by one. -/
lemma encodePath_intercalate (texts : List (List Char)) :
    encodePath (['/'].intercalate texts) = ['/'].intercalate (texts.map encodePath) := by
  induction texts with
  | nil => rfl
  | cons u texts ih =>
    cases texts with
    | nil => simp [List.intercalate]
    | cons v texts =>
      have hslash : encodePath ['/'] = ['/'] := rfl
      have happend (xs ys : List Char) : encodePath (xs ++ ys) = encodePath xs ++ encodePath ys :=
        List.flatMap_append
      rw [List.map_cons] at ih ⊢
      rw [List.intercalate_cons_cons, happend, happend, ih, hslash, List.map_cons,
        List.intercalate_cons_cons]

lemma encodeSegment_ne_nil {cs : List Char} (h : cs ≠ []) : encodeSegment cs ≠ [] := by
  intro he
  have := decode_encodeSegment cs
  rw [he] at this
  exact h this.symm

end Percent

end ActionRouting.Text
