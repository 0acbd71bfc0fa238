import ActionRouting.Proofs.Text.Percent
import ActionRouting.Text.Base64

/-! Bytes are read back from what they are in base 64. Each group of four characters gives its three
bytes again, and the padding of the last group gives none. -/
namespace ActionRouting.Text.Base64

variable {d : Nat}

/-- A digit is read from its character, which is no padding. -/
lemma digitChar_facts : ∀ d : Fin 64, digit? (digitChar d).toNat = some d.val ∧
    (digitChar d).toNat ≠ 61 ∧ isAscii (digitChar d) := by
  decide

/-- A group is read on with the next of its digits. -/
lemma decodeFrom_digitChar (hd : d < 64) (place left pads : Nat) (rest : List Nat) :
    decodeFrom place left pads ((digitChar d).toNat :: rest) =
      if place = 0 then decodeFrom 1 d 0 rest
      else if place = 1 then
        (decodeFrom 2 (d % 16) 0 rest).map ((left * 4 + d / 16).toUInt8 :: ·)
      else if place = 2 then
        (decodeFrom 3 (d % 4) 0 rest).map ((left * 16 + d / 4).toUInt8 :: ·)
      else (decodeFrom 0 0 0 rest).map ((left * 64 + d).toUInt8 :: ·) := by
  obtain ⟨hdigit, hpad, -⟩ := digitChar_facts ⟨d, hd⟩
  rw [decodeFrom, if_neg hpad, hdigit]

/-- The first byte is shared between the first two digits. -/
lemma decodeFrom_first {b : Nat} (a : UInt8) (hb : b < 16) (rest : List Nat) :
    decodeFrom 0 0 0 ((digitChar (a.toNat / 4)).toNat ::
        (digitChar (a.toNat % 4 * 16 + b)).toNat :: rest) =
      (decodeFrom 2 b 0 rest).map (a :: ·) := by
  have ha := a.toNat_lt
  have hbyte : a.toNat / 4 * 4 + (a.toNat % 4 * 16 + b) / 16 = a.toNat := by omega
  have hleft : (a.toNat % 4 * 16 + b) % 16 = b := by omega
  rw [decodeFrom_digitChar (by omega), if_pos rfl, decodeFrom_digitChar (by omega),
    if_neg (by decide), if_pos rfl, hbyte, hleft]
  simp

/-- The second byte is shared between the second digit and the third. -/
lemma decodeFrom_second {c : Nat} (b : UInt8) (hc : c < 4) (rest : List Nat) :
    decodeFrom 2 (b.toNat / 16) 0 ((digitChar (b.toNat % 16 * 4 + c)).toNat :: rest) =
      (decodeFrom 3 c 0 rest).map (b :: ·) := by
  have hb := b.toNat_lt
  have hbyte : b.toNat / 16 * 16 + (b.toNat % 16 * 4 + c) / 4 = b.toNat := by omega
  have hleft : (b.toNat % 16 * 4 + c) % 4 = c := by omega
  rw [decodeFrom_digitChar (by omega), if_neg (by decide), if_neg (by decide), if_pos rfl, hbyte,
    hleft]
  simp

/-- The third byte is shared between the last two digits. -/
lemma decodeFrom_third (c : UInt8) (rest : List Nat) :
    decodeFrom 3 (c.toNat / 64) 0 ((digitChar (c.toNat % 64)).toNat :: rest) =
      (decodeFrom 0 0 0 rest).map (c :: ·) := by
  have hc := c.toNat_lt
  have hbyte : c.toNat / 64 * 64 + c.toNat % 64 = c.toNat := by omega
  rw [decodeFrom_digitChar (by omega), if_neg (by decide), if_neg (by decide), if_neg (by decide),
    hbyte]
  simp

/-- Bytes in base 64 are read back. -/
theorem decode?_encode (bytes : List UInt8) :
    decode? ((encode bytes).map Char.toNat) = some bytes := by
  unfold decode?
  induction bytes using encode.induct with
  | case1 => rfl
  | case2 a =>
    have h := decodeFrom_first a (b := 0) (by decide) ['='.toNat, '='.toNat]
    rw [Nat.add_zero] at h
    exact h
  | case3 a b =>
    have hb := b.toNat_lt
    have h := decodeFrom_second b (c := 0) (by decide) ['='.toNat]
    rw [Nat.add_zero] at h
    exact (decodeFrom_first a (by omega) _).trans (congrArg _ h)
  | case4 a b c rest ih =>
    have hb := b.toNat_lt
    have hc := c.toNat_lt
    calc decodeFrom 0 0 0 ((encode (a :: b :: c :: rest)).map Char.toNat)
      _ = (decodeFrom 2 (b.toNat / 16) 0 _).map (a :: ·) := decodeFrom_first a (by omega) _
      _ = ((decodeFrom 3 (c.toNat / 64) 0 _).map (b :: ·)).map (a :: ·) :=
        congrArg _ (decodeFrom_second b (by omega) _)
      _ = (((decodeFrom 0 0 0 _).map (c :: ·)).map (b :: ·)).map (a :: ·) :=
        congrArg _ (congrArg _ (decodeFrom_third c _))
      _ = some (a :: b :: c :: rest) := by rw [ih]; rfl

lemma isAscii_digitChar (hd : d < 64) : isAscii (digitChar d) := (digitChar_facts ⟨d, hd⟩).2.2

/-- Base 64 is written in ASCII. -/
lemma isAscii_encode (bytes : List UInt8) : (encode bytes).all isAscii := by
  have hpad : isAscii '=' := by decide
  induction bytes using encode.induct with
  | case1 => rfl
  | case2 a =>
    have ha := a.toNat_lt
    simp (disch := omega) [encode, hpad, isAscii_digitChar]
  | case3 a b =>
    have ha := a.toNat_lt
    have hb := b.toNat_lt
    simp (disch := omega) [encode, hpad, isAscii_digitChar]
  | case4 a b c rest ih =>
    have ha := a.toNat_lt
    have hb := b.toNat_lt
    have hc := c.toNat_lt
    rw [encode]
    simp (disch := omega) [ih, isAscii_digitChar]

/-- Only no bytes at all are nothing in base 64. -/
lemma encode_eq_nil {bytes : List UInt8} : encode bytes = [] ↔ bytes = [] := by
  cases bytes using encode.induct with
  | case1 => simp [encode]
  | case2 a => simp [encode]
  | case3 a b => simp [encode]
  | case4 a b c rest => simp [encode]

end ActionRouting.Text.Base64
