import PatchReview.Number.Binary64

/-! Sums, products and whole parts in the 64-bit binary format.

Each result is the exact one rounded once, to the nearest number and a tie to the even
mantissa. -/
namespace PatchReview.Binary64

def isNegative : Binary64 → Bool
  | .nan => false
  | .infinite negative | .finite negative _ _ => negative

/-- `n` over one, with the sign of a number. -/
def signed (negative : Bool) (n : Nat) : Int := if negative then -(n : Int) else n

def mul : Binary64 → Binary64 → Binary64
  | .finite s m e, .finite t n f =>
    let (a, b) := ratio m e
    let (c, d) := ratio n f
    ofRatio (s != t) (a * c) (b * d)
  | .nan, _ | _, .nan => .nan
  | x, y => if x.isZero || y.isZero then .nan else .infinite (x.isNegative != y.isNegative)

def add : Binary64 → Binary64 → Binary64
  | .finite s m e, .finite t n f =>
    let (a, b) := ratio m e
    let (c, d) := ratio n f
    let sum := signed s (a * d) + signed t (c * b)
    if sum = 0 then .finite (s && t) 0 0 else ofRatio (sum < 0) sum.natAbs (b * d)
  | .nan, _ | _, .nan => .nan
  | .infinite s, .infinite t => if s = t then .infinite s else .nan
  | .infinite s, _ | _, .infinite s => .infinite s

/-- The least integer that is not below a number; neither an infinity nor a non-number has
one. -/
def ceiling? : Binary64 → Option Int
  | .finite negative m e =>
    let (num, den) := ratio m e
    some (if negative then -((num / den : Nat) : Int) else ((num + den - 1) / den : Nat))
  | _ => none

/-- Zero times anything has no positive whole part. -/
theorem ceiling?_zero_mul (x : Binary64) : ((mul (.finite false 0 0) x).ceiling?.getD 0) = 0 := by
  match x with
  | .nan => rfl
  | .infinite _ => rfl
  | .finite false n f => simp [mul, ratio, ofRatio, ceiling?]
  | .finite true n f => simp [mul, ratio, ofRatio, ceiling?]

end PatchReview.Binary64
