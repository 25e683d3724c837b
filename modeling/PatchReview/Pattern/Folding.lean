import PatchReview.Pattern.Basic
import PatchReview.Text.Blank
import PatchReview.Text.Case
import PatchReview.Text.Numeral
import PatchReview.Text.Word

/-! Which characters, given by their code points, a single node takes.

Without case, characters are compared by their lower-case letters; where two lower-case
letters have one capital they count as alike (`likeLetters`). A range without case takes a
character if a letter alike to it has some capital or small form in the range. Beyond the
basic plane a character listed in a set stands only for itself and a range looks at the
capital of a letter as well. -/
namespace PatchReview.Pattern

open Text

/-- Groups of lower-case letters with one capital. -/
def likeLetters : List (List Nat) := [
  [0x69, 0x131], [0x73, 0x17F], [0xB5, 0x3BC], [0x345, 0x3B9, 0x1FBE], [0x390, 0x1FD3],
  [0x3B0, 0x1FE3], [0x3B2, 0x3D0], [0x3B5, 0x3F5], [0x3B8, 0x3D1], [0x3BA, 0x3F0],
  [0x3C0, 0x3D6], [0x3C1, 0x3F1], [0x3C2, 0x3C3], [0x3C6, 0x3D5], [0x432, 0x1C80],
  [0x434, 0x1C81], [0x43E, 0x1C82], [0x441, 0x1C83], [0x442, 0x1C84, 0x1C85], [0x44A, 0x1C86],
  [0x463, 0x1C87], [0x1C88, 0xA64B], [0x1E61, 0x1E9B], [0xFB05, 0xFB06]]

/-- The letters alike to a lower-case letter, itself among them. -/
def alike (n : Nat) : List Nat := (likeLetters.find? (·.contains n)).getD [n]

/-- The lower case of a code point. -/
def lowerCode (n : Nat) : Nat := if n.isValidChar then (lowerChar (Char.ofNat n)).toNat else n

/-- The lower case of a code point of ASCII; every other stays. -/
def lowerAscii (n : Nat) : Nat := if 65 ≤ n ∧ n ≤ 90 then n + 32 else n

/-- The form in which characters are compared. -/
def Folding.fold : Folding → Nat → Nat
  | .exact, n => n
  | .ascii, n => lowerAscii n
  | .unicode, n => lowerCode n

/-- The forms that count as equal to a folded one. -/
def Folding.forms : Folding → Nat → List Nat
  | .unicode, n => alike n
  | _, n => [n]

/-- Whether a character stands for the code point `n`. -/
def Folding.takes (folding : Folding) (n c : Nat) : Bool :=
  (folding.forms (folding.fold n)).contains (folding.fold c)

/-- The last code point of the basic plane. -/
def basicPlaneEnd : Nat := 0xFFFF

/-- The code points whose lower case is `n`. -/
def lowerSources (n : Nat) : List Nat :=
  let moved := lowerRanges.filterMap fun r =>
    let source := ((n : Int) - r.shift).toNat
    if r.moved? source = some n then some source else none
  let dotted := if n = 0x69 then [0x130] else []
  let same := if lowerCode n = n then [n] else []
  same ++ dotted ++ moved

/-- The code points that fold to a form. -/
def Folding.sources : Folding → Nat → List Nat
  | .exact, n => [n]
  | .ascii, n => if 97 ≤ n ∧ n ≤ 122 then [n, n - 32] else if lowerAscii n = n then [n] else []
  | .unicode, n => lowerSources n

/-- The first capital of a code point. -/
def capitalOf (n : Nat) : Nat :=
  if n.isValidChar then (((upperOf (Char.ofNat n)).head?.map (·.toNat)).getD n) else n

def inRange (low high n : Nat) : Bool := low ≤ n && n ≤ high

/-- Whether a character is in a range. -/
def Folding.takesRange (folding : Folding) (low high c : Nat) : Bool :=
  match folding with
  | .exact => inRange low high c
  | _ =>
    let n := folding.fold c
    let basic := ((folding.forms n).flatMap folding.sources).any
      fun source => inRange low high source && source ≤ basicPlaneEnd
    basic || (basicPlaneEnd < high && (inRange low high n || inRange low high (capitalOf n)))

def isAsciiBlank (c : Char) : Bool := c == ' ' || (9 ≤ c.toNat && c.toNat ≤ 13)

/-- Whether a character is in a class; halves of surrogate pairs are in none. -/
def Category.has (category : Category) (ascii : Bool) (n : Nat) : Bool :=
  let c := Char.ofNat n
  match category, ascii with
  | .digit, true => c.isDigit
  | .digit, false => isDigit c
  | .space, true => isAsciiBlank c
  | .space, false => isBlank c
  | .word, true => isAsciiWord c
  | .word, false => isWord c

/-- Whether a code point has another form without case. -/
def Folding.folds (folding : Folding) (low high : Nat) : Bool :=
  match folding with
  | .exact => false
  | .ascii => hasCaseWithin (max low 65) (min high 122)
  | .unicode => hasCaseWithin low high

/-- How a single character is compared: one that has no case, as it is. -/
def Folding.ofCode (folding : Folding) (n : Nat) : Folding :=
  if folding.folds n n then folding else .exact

/-- Whether case matters in an item of a set; beyond the basic plane it always may. -/
def SetItem.folds (folding : Folding) : SetItem → Bool
  | .code n => basicPlaneEnd < n || folding.folds n n
  | .range low high => basicPlaneEnd < high || folding.folds low high
  | .category .. => false

/-- How the items of a set are compared: those that have no case, as they are. -/
def Folding.ofItems (folding : Folding) (items : List SetItem) : Folding :=
  if folding ≠ .exact ∧ items.any (·.folds folding) then folding else .exact

/-- Whether an item can start a match without regard to case. -/
def SetItem.isPlain (folding : Folding) : SetItem → Bool
  | .code n => !folding.folds n n
  | .range low high => folding == .exact || (high ≤ basicPlaneEnd && !folding.folds low high)
  | .category .. => true

def SetItem.takes (folding : Folding) (c : Nat) : SetItem → Bool
  | .code n =>
    if folding ≠ .exact ∧ basicPlaneEnd < folding.fold n then folding.fold c == n
    else folding.takes n c
  | .range low high => folding.takesRange low high c
  | .category kind ascii negated => kind.has ascii c != negated

/-- Whether a character is in a set. -/
def setTakes (folding : Folding) (negated : Bool) (items : List SetItem) (c : Nat) : Bool :=
  items.any (·.takes folding c) != negated

end PatchReview.Pattern
