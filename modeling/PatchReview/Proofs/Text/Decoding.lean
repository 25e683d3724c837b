import PatchReview.Text.Utf8

/-! Texts that were written are read back.

The bytes of a character are read as the character, whatever stands behind them
(`decodeStep_encodeChar`), so lenient decoding of what was written finds no fault. -/
namespace PatchReview.Text.Utf8

/-- The byte values of one character, by its number. -/
def values (n : Nat) : List Nat :=
  if n ≤ 127 then [n]
  else if n ≤ 2047 then [n / 64 % 32 + 192, n % 64 + 128]
  else if n ≤ 65535 then [n / 4096 % 16 + 224, n / 64 % 64 + 128, n % 64 + 128]
  else [n / 262144 % 8 + 240, n / 4096 % 64 + 128, n / 64 % 64 + 128, n % 64 + 128]

theorem map_encodeChar (c : Char) : (encodeChar c).map (·.toNat) = values c.toNat := by
  have hbyte {n : Nat} (h : n < 256) : (UInt8.ofNat n).toNat = n := Nat.mod_eq_of_lt h
  unfold encodeChar String.utf8EncodeChar values Char.toNat
  generalize c.val.toNat = n
  dsimp only
  split
  · rw [List.map_singleton, hbyte (by omega)]
  split
  · rw [List.map_cons, List.map_singleton, hbyte (by omega), hbyte (by omega)]
  split
  · rw [List.map_cons, List.map_cons, List.map_singleton, hbyte (by omega), hbyte (by omega),
      hbyte (by omega)]
  · rw [List.map_cons, List.map_cons, List.map_cons, List.map_singleton, hbyte (by omega),
      hbyte (by omega), hbyte (by omega), hbyte (by omega)]

theorem isTail_add {n : Nat} (h : n < 64) : isTail (n + 128) = true := by
  simp only [isTail, Bool.and_eq_true, decide_eq_true_eq]
  omega

/-- The values of a number that a character has are read as the character. -/
theorem decodeStep_values {n : Nat} (hvalid : n < 0xD800 ∨ 0xDFFF < n ∧ n < 0x110000)
    (rest : List Nat) :
    ∃ lead more, values n = lead :: more ∧
      decodeStep lead (more ++ rest) = .char (Char.ofNat n) (more.length + 1) := by
  by_cases h1 : n ≤ 127
  · refine ⟨n, [], if_pos h1, ?_⟩
    unfold decodeStep
    rw [if_pos (by omega)]
    rfl
  by_cases h2 : n ≤ 2047
  · refine ⟨n / 64 % 32 + 192, [n % 64 + 128], by rw [values, if_neg h1, if_pos h2], ?_⟩
    unfold decodeStep
    rw [if_neg (by omega), if_neg (by simp; omega), if_pos (by omega)]
    simp only [List.singleton_append, isTail_add (Nat.mod_lt n (by decide : 0 < 64)), if_true]
    exact congrArg (Step.char · 2) (congrArg Char.ofNat (by omega))
  by_cases h3 : n ≤ 65535
  · refine ⟨n / 4096 % 16 + 224, [n / 64 % 64 + 128, n % 64 + 128],
      by rw [values, if_neg h1, if_neg h2, if_pos h3], ?_⟩
    have hfits : fitsSecond (n / 4096 % 16 + 224) (n / 64 % 64 + 128) = true := by
      simp only [fitsSecond, isTail_add (Nat.mod_lt (n / 64) (by decide : 0 < 64)), Bool.true_and,
        Bool.and_eq_true, Bool.or_eq_true, bne_iff_ne, decide_eq_true_eq]
      omega
    unfold decodeStep
    rw [if_neg (by omega), if_neg (by simp; omega), if_neg (by omega),
      if_pos (by omega)]
    simp only [List.cons_append, List.nil_append, hfits, Bool.not_true, Bool.false_eq_true,
      if_false, isTail_add (Nat.mod_lt n (by decide : 0 < 64)), if_true]
    exact congrArg (Step.char · 3) (congrArg Char.ofNat (by omega))
  · refine ⟨n / 262144 % 8 + 240, [n / 4096 % 64 + 128, n / 64 % 64 + 128, n % 64 + 128],
      by rw [values, if_neg h1, if_neg h2, if_neg h3], ?_⟩
    have hfits : fitsSecond (n / 262144 % 8 + 240) (n / 4096 % 64 + 128) = true := by
      simp only [fitsSecond, isTail_add (Nat.mod_lt (n / 4096) (by decide : 0 < 64)),
        Bool.true_and, Bool.and_eq_true, Bool.or_eq_true, bne_iff_ne, decide_eq_true_eq]
      omega
    unfold decodeStep
    rw [if_neg (by omega), if_neg (by simp; omega), if_neg (by omega),
      if_neg (by omega)]
    simp only [List.cons_append, List.nil_append, hfits, Bool.not_true, Bool.false_eq_true,
      if_false, isTail_add (Nat.mod_lt (n / 64) (by decide : 0 < 64)),
      isTail_add (Nat.mod_lt n (by decide : 0 < 64)), if_true]
    exact congrArg (Step.char · 4) (congrArg Char.ofNat (by omega))

theorem decodeLenientFrom_encodeChar (c : Char) (rest : List Nat) :
    decodeLenientFrom ((encodeChar c).map (·.toNat) ++ rest) = c :: decodeLenientFrom rest := by
  have hvalid : c.toNat < 0xD800 ∨ 0xDFFF < c.toNat ∧ c.toNat < 0x110000 := c.valid
  obtain ⟨lead, more, hvalues, hstep⟩ := decodeStep_values hvalid rest
  rw [map_encodeChar, hvalues, List.cons_append, decodeLenientFrom, hstep, Char.ofNat_toNat]
  exact congrArg (c :: decodeLenientFrom ·) (List.drop_left' rfl)

/-- What was written is read back. -/
theorem decodeLenient_encode (s : List Char) : decodeLenient (encode s) = s := by
  induction s with
  | nil => rw [encode, List.flatMap_nil, decodeLenient, List.map_nil, decodeLenientFrom]
  | cons c s ih =>
    rw [decodeLenient, encode, List.flatMap_cons, List.map_append, decodeLenientFrom_encodeChar]
    exact congrArg (c :: ·) ih

end PatchReview.Text.Utf8
