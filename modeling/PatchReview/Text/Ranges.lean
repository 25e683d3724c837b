/-! Sets of characters given as ascending ranges of code points. -/
namespace PatchReview.Text

/-- Ranges of code points, both ends included, in ascending order. -/
abbrev Ranges := Array (Nat × Nat)

namespace Ranges

/-- Halving search for `n` among the ranges from `lo` up to `hi`. -/
def search (table : Ranges) (n lo hi : Nat) : Bool :=
  if _h : lo < hi then
    let mid := (lo + hi) / 2
    match table[mid]? with
    | none => false
    | some (first, last) =>
      if n < first then search table n lo mid
      else if last < n then search table n (mid + 1) hi
      else true
  else false
termination_by hi - lo

/-- Whether the character lies in one of the ranges. -/
def has (table : Ranges) (c : Char) : Bool := search table c.toNat 0 table.size

end Ranges

end PatchReview.Text
