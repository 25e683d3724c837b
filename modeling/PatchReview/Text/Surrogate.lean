/-! Surrogate pairs.

Characters beyond the first 65536 are written as pairs where a format has sixteen bits for a
number. The numbers of the halves are those of no character. -/
namespace PatchReview.Text.Surrogate

/-- The number of the first half. -/
def firstHalf : Nat := 0xD800

/-- The number of the first half that comes second in a pair. -/
def firstLowHalf : Nat := 0xDC00

/-- How many halves there are. -/
def halfCount : Nat := 0x800

/-- Whether a number is that of a half. -/
def isHalf (n : Nat) : Bool := firstHalf ≤ n && n < firstHalf + halfCount

theorem isHalf_iff {n : Nat} : isHalf n = true ↔ firstHalf ≤ n ∧ n < firstHalf + halfCount := by
  simp [isHalf]

/-- No character has the number of a half. -/
theorem isHalf_toNat (c : Char) : isHalf c.toNat = false := by
  rw [Bool.eq_false_iff]
  intro h
  have ⟨hlow, hhigh⟩ := isHalf_iff.1 h
  simp only [firstHalf, halfCount] at hlow hhigh
  have hvalid : c.toNat < 0xD800 ∨ 0xDFFF < c.toNat ∧ c.toNat < 0x110000 := c.valid
  omega

/-- Whether a number is that of a half that comes first in a pair. -/
def isHigh (n : Nat) : Bool := isHalf n && n < firstLowHalf

/-- Whether a number is that of a half that comes second in a pair. -/
def isLow (n : Nat) : Bool := isHalf n && firstLowHalf ≤ n

/-- The number that a pair stands for. -/
def joined (high low : Nat) : Nat := 0x10000 + (high - firstHalf) * 0x400 + (low - firstLowHalf)

/-- The number that two halves stand for, if they are a pair. -/
def joined? (high low : Nat) : Option Nat :=
  if isHigh high && isLow low then some (joined high low) else none

end PatchReview.Text.Surrogate
