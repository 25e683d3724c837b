import Mathlib.Algebra.Group.Nat.Defs
import Mathlib.Data.List.Induction
import PatchReview.Proofs.Text.Scan

/-! Numbers written in decimal, and read as runs of digits.

A number is written with ASCII digits, which are digits among those of all scripts, and a run of
them is read as the number (`digitsValue_toDigits`). -/
namespace PatchReview.Text

theorem toNat_lt_of_charIsDigit {c : Char} (h : c.isDigit = true) : c.toNat < 128 := by
  simp only [Char.isDigit, Bool.and_eq_true, decide_eq_true_eq] at h
  have := UInt32.le_iff_toNat_le.1 h.2
  show c.val.toNat < 128
  exact Nat.lt_of_le_of_lt this (by decide)

theorem isDigit_of_charIsDigit {c : Char} (h : c.isDigit = true) :
    isDigit c = true ∧ digitValue? c = some (c.toNat - 48) := by
  have hlt := toNat_lt_of_charIsDigit h
  have hv : digitValue? c = some (c.toNat - 48) := by
    simp only [digitValue?, if_pos hlt, h, if_true]
  exact ⟨by rw [isDigit, hv]; rfl, hv⟩

theorem isNumber_toDigits (n : Nat) : IsNumber (Nat.toDigits 10 n) :=
  ⟨Nat.toDigits_ne_nil, List.all_eq_true.2 fun _ hc =>
    (isDigit_of_charIsDigit (Nat.isDigit_of_mem_toDigits (by decide) (by decide) hc)).1⟩

theorem newline_notMem_toDigits (n : Nat) : '\n' ∉ Nat.toDigits 10 n := fun h =>
  absurd (Nat.isDigit_of_mem_toDigits (by decide) (by decide) h) (by decide)

theorem digitsValue_concat (digits : List Char) {c : Char} (h : c.isDigit = true) :
    digitsValue (digits ++ [c]) = 10 * digitsValue digits + (c.toNat - 48) := by
  simp only [digitsValue, List.foldl_append, List.foldl_cons, List.foldl_nil,
    (isDigit_of_charIsDigit h).2]

theorem digitsValue_eq_ofDigitChars {digits : List Char} (h : ∀ c ∈ digits, c.isDigit = true) :
    digitsValue digits = Nat.ofDigitChars 10 digits 0 := by
  induction digits using List.reverseRecOn with
  | nil => rw [Nat.ofDigitChars_nil]; rfl
  | append_singleton digits c ih =>
    rw [digitsValue_concat digits (h c (by simp)), ih fun d hd => h d (List.mem_append_left _ hd),
      Nat.ofDigitChars_append, Nat.ofDigitChars_cons, Nat.ofDigitChars_nil]
    rfl

/-- Digits that were written are read as the number that they were written for. -/
theorem digitsValue_toDigits (n : Nat) : digitsValue (Nat.toDigits 10 n) = n := by
  have h : ∀ c ∈ Nat.toDigits 10 n, c.isDigit = true := fun _ hc =>
    Nat.isDigit_of_mem_toDigits (by decide) (by decide) hc
  rw [digitsValue_eq_ofDigitChars h, Nat.ofDigitChars_ten_toDigits]

theorem digitValue?_lt {c : Char} {d : Nat} (h : digitValue? c = some d) : d < 10 := by
  simp only [digitValue?] at h
  split at h
  · split at h
    · rename_i hd
      obtain rfl := Option.some.inj h
      simp only [Char.isDigit, Bool.and_eq_true, decide_eq_true_eq] at hd
      have hle : c.toNat ≤ 57 := UInt32.le_iff_toNat_le.1 hd.2
      omega
    · exact absurd h (Option.some_ne_none d).symm
  · obtain ⟨low, hlow, rfl⟩ := Option.map_eq_some_iff.1 h
    have hrange := List.find?_some hlow
    simp only [Bool.and_eq_true, decide_eq_true_eq] at hrange
    omega

/-- A number has no more digits than it is written with. -/
theorem digitsValue_lt (digits : List Char) : digitsValue digits < 10 ^ digits.length := by
  induction digits using List.reverseRecOn with
  | nil => decide
  | append_singleton digits c ih =>
    rw [digitsValue, List.foldl_append, List.foldl_cons, List.foldl_nil, ← digitsValue,
      List.length_append, List.length_singleton, Nat.pow_succ]
    cases hd : digitValue? c with
    | none =>
      simp only
      omega
    | some d =>
      have hlt := digitValue?_lt hd
      simp only
      omega

/-- Only a run of too many digits is not read. -/
theorem readNaturalWithin_eq_error {limit : Nat} {digits : List Char} {e : NumeralError}
    (h : readNaturalWithin (some limit) digits = .error e) :
    e = .tooLong digits.length ∧ limit < digits.length := by
  unfold readNaturalWithin at h
  split at h
  · rename_i hlong
    exact ⟨(Except.error.inj h).symm, by simpa using hlong⟩
  · exact absurd h (by simp)

/-- A number that is read within the limit can be written. -/
theorem isWritable_of_readNatural {digits : List Char} {n : Nat} (h : readNatural digits = .ok n) :
    isWritable n = true := by
  unfold readNatural readNaturalWithin at h
  split at h
  · exact absurd h (by simp)
  · rename_i hle
    obtain rfl := Except.ok.inj h
    -- With the limit itself in place of `limit`, the power would be computed.
    have hlt (limit : Nat) (hle : digits.length ≤ limit) :
        digitsValue digits < Nat.pow 10 limit :=
      Nat.lt_of_lt_of_le (digitsValue_lt digits) (Nat.pow_le_pow_right (by decide) hle)
    have hvalue := hlt digitLimit (by simpa using hle)
    rwa [isWritable, decide_eq_true_eq, Int.natAbs_natCast]

/-! ### Integers -/

theorem toList_intRepr (i : Int) :
    i.repr.toList = (if 0 ≤ i then [] else ['-']) ++ Nat.toDigits 10 i.natAbs := by
  rw [Int.repr_eq_if]
  split
  · rw [Nat.toList_repr, List.nil_append, show i.toNat = i.natAbs by omega]
  · rw [String.toList_append, Nat.toList_repr, show (-i).toNat = i.natAbs by omega]
    rfl

/-- An integer is written with digits and perhaps a sign. -/
theorem isDigit_of_mem_intRepr {i : Int} {c : Char} (h : c ∈ i.repr.toList) :
    c = '-' ∨ c.isDigit = true := by
  rw [toList_intRepr, List.mem_append] at h
  rcases h with h | h
  · split at h
    · exact absurd h List.not_mem_nil
    · exact .inl (List.mem_singleton.1 h)
  · exact .inr (Nat.isDigit_of_mem_toDigits (by decide) (by decide) h)

theorem intRepr_injective : Function.Injective Int.repr := by
  have hsign {m n : Nat} : Nat.toDigits 10 m ≠ '-' :: Nat.toDigits 10 n := fun h =>
    absurd (Nat.isDigit_of_mem_toDigits (by decide) (by decide) (h ▸ List.mem_cons_self))
      (by decide)
  have hdigits {m n : Nat} (h : Nat.toDigits 10 m = Nat.toDigits 10 n) : m = n := by
    rw [← digitsValue_toDigits m, h, digitsValue_toDigits]
  intro i j h
  have hlist := congrArg String.toList h
  rw [toList_intRepr, toList_intRepr] at hlist
  split at hlist <;> split at hlist
  · have habs := hdigits hlist
    omega
  · exact absurd hlist hsign
  · exact absurd hlist.symm hsign
  · have habs := hdigits (List.cons.inj hlist).2
    omega

end PatchReview.Text
