import Mathlib.Algebra.Group.Nat.Defs
import PatchReview.Digest.Block

/-! Digests as texts.

Two digits of a byte are read as the byte again (`hexRunValue_hexDigits`), so that different digests
are written as different texts (`hex_injective`). -/
namespace PatchReview

namespace Text

theorem hexValue?_hexDigit : ∀ d < 16, hexValue? (hexDigit d) = some d := by decide

theorem length_hexDigits (n width : Nat) : (hexDigits n width).length = width := by
  induction width generalizing n with
  | zero => rfl
  | succ width ih => rw [hexDigits, List.length_append, ih, List.length_singleton]

/-- Digits are read as the number they are the last digits of. -/
theorem hexRunValue_hexDigits (n width : Nat) :
    hexRunValue (hexDigits n width) = n % 16 ^ width := by
  induction width generalizing n with
  | zero => exact (Nat.mod_one n).symm
  | succ width ih =>
    have hread : hexRunValue (hexDigits n (width + 1)) =
        16 * hexRunValue (hexDigits (n / 16) width) + n % 16 := by
      rw [hexRunValue, hexDigits, List.foldl_append, List.foldl_cons, List.foldl_nil,
        hexValue?_hexDigit _ (Nat.mod_lt _ (by decide)), hexRunValue]
    rw [hread, ih, Nat.pow_succ', Nat.mod_mul, Nat.add_comm]

end Text

namespace Digest

theorem hexDigits_byte_injective {a b : UInt8}
    (h : Text.hexDigits a.toNat 2 = Text.hexDigits b.toNat 2) : a = b := by
  have hlt (c : UInt8) : c.toNat < 16 ^ 2 := c.toNat_lt
  have hread := congrArg Text.hexRunValue h
  rw [Text.hexRunValue_hexDigits, Text.hexRunValue_hexDigits, Nat.mod_eq_of_lt (hlt a),
    Nat.mod_eq_of_lt (hlt b)] at hread
  exact UInt8.toNat_inj.1 hread

/-- Different bytes are written as different texts. -/
theorem hex_injective : Function.Injective hex := by
  intro as bs h
  replace h := String.ofList_inj.1 h
  induction as generalizing bs with
  | nil =>
    cases bs with
    | nil => rfl
    | cons b bs => exact absurd h.symm (List.cons_ne_nil _ _)
  | cons a as ih =>
    cases bs with
    | nil => exact absurd h (List.cons_ne_nil _ _)
    | cons b bs =>
      rw [List.flatMap_cons, List.flatMap_cons] at h
      obtain ⟨hbyte, hrest⟩ := List.append_inj h (by simp only [Text.length_hexDigits])
      rw [hexDigits_byte_injective hbyte, ih hrest]

end Digest

end PatchReview
