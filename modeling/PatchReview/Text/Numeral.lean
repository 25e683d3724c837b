import PatchReview.Text.Blank
import PatchReview.Text.Ranges

/-! Digits and the integers they write.

A digit of any script counts by its value (`digitValue?`). An integer is an optional sign
and digits, single underscores allowed between them, with blanks around; more than 4300
digits are refused before anything else is looked at (`digitLimit`), and an integer that has
more is not written (`isWritable`). `readNatural` reads a run of digits that is already known
to be one. -/
namespace PatchReview.Text

/-- The digit zero of every script. -/
def zeroDigits : List Nat := [
  0x30, 0x660, 0x6F0, 0x7C0, 0x966, 0x9E6, 0xA66, 0xAE6, 0xB66, 0xBE6, 0xC66, 0xCE6, 0xD66, 0xDE6,
  0xE50, 0xED0, 0xF20, 0x1040, 0x1090, 0x17E0, 0x1810, 0x1946, 0x19D0, 0x1A80, 0x1A90, 0x1B50,
  0x1BB0, 0x1C40, 0x1C50, 0xA620, 0xA8D0, 0xA900, 0xA9D0, 0xA9F0, 0xAA50, 0xABF0, 0xFF10, 0x104A0,
  0x10D30, 0x11066, 0x110F0, 0x11136, 0x111D0, 0x112F0, 0x11450, 0x114D0, 0x11650, 0x116C0, 0x11730,
  0x118E0, 0x11950, 0x11C50, 0x11D50, 0x11DA0, 0x16A60, 0x16AC0, 0x16B50, 0x1D7CE, 0x1D7D8, 0x1D7E2,
  0x1D7EC, 0x1D7F6, 0x1E140, 0x1E2F0, 0x1E950, 0x1FBF0]

/-- The value of a decimal digit of any script. -/
def digitValue? (c : Char) : Option Nat :=
  let n := c.toNat
  if n < 128 then if c.isDigit then some (n - 48) else none
  else (zeroDigits.find? fun z => z ≤ n && n < z + 10).map (n - ·)

/-- A decimal digit of some script. -/
def isDigit (c : Char) : Bool := (digitValue? c).isSome

/-- Digits that are no decimal digits: superscripts, circled digits and the like. -/
def otherDigitRanges : Ranges := #[
  (0xB2, 0xB3), (0xB9, 0xB9), (0x1369, 0x1371), (0x19DA, 0x19DA), (0x2070, 0x2070),
  (0x2074, 0x2079), (0x2080, 0x2089), (0x2460, 0x2468), (0x2474, 0x247C), (0x2488, 0x2490),
  (0x24EA, 0x24EA), (0x24F5, 0x24FD), (0x24FF, 0x24FF), (0x2776, 0x277E), (0x2780, 0x2788),
  (0x278A, 0x2792), (0x10A40, 0x10A43), (0x10E60, 0x10E68), (0x11052, 0x1105A), (0x1F100, 0x1F10A)]

/-- A decimal digit, or one that only stands for a digit. -/
def isDigitLike (c : Char) : Bool := isDigit c || otherDigitRanges.has c

/-- What can be wrong with the text of an integer. -/
inductive NumeralError where
  /-- The text writes no integer. -/
  | malformed (text : String)
  /-- The text has more digits than `digitLimit`. -/
  | tooLong (digits : Nat)
  /-- The integer has more digits than `digitLimit`, so that it is not written. -/
  | unwritable
  deriving DecidableEq, Repr

/-- The most digits an integer may be written with. -/
def digitLimit : Nat := 4300

/-- Whether an integer has no more than `digitLimit` digits. -/
def isWritable (i : Int) : Bool := i.natAbs < Nat.pow 10 digitLimit

/-- The number that a run of digits writes; other characters count nothing. -/
def digitsValue (digits : List Char) : Nat :=
  digits.foldl (fun n c => match digitValue? c with | some d => 10 * n + d | none => n) 0

/-- The number written by a run of digits, unless there is a limit and the run is longer. -/
def readNaturalWithin (limit : Option Nat) (digits : List Char) : Except NumeralError Nat :=
  if limit.any (· < digits.length) then .error (.tooLong digits.length)
  else .ok (digitsValue digits)

/-- The number written by a run of digits, unless it is too long. -/
def readNatural : List Char → Except NumeralError Nat := readNaturalWithin (some digitLimit)

/-- The blanks dropped around an integer: of those in ASCII only space, tab and the controls up
to carriage return. -/
def numeralBlank (c : Char) : Bool :=
  c == ' ' || (9 ≤ c.toNat && c.toNat ≤ 13) || (127 < c.toNat && isBlank c)

/-- The longest start of the text that is made of digits and underscores, and the rest. -/
def digitRun (s : List Char) : List Char × List Char :=
  s.span fun c => isDigit c || c == '_'

/-- Underscores stand only between digits, and there is a digit. -/
def wellGrouped : List Char → Bool
  | [] => false
  | [c] => isDigit c
  | '_' :: _ => false
  | _ :: '_' :: '_' :: _ => false
  | _ :: '_' :: s => wellGrouped s
  | _ :: s => wellGrouped s

/-- Whether a minus stands in front, and the rest behind the sign. -/
def takeSign : List Char → Bool × List Char
  | '-' :: s => (true, s)
  | '+' :: s => (false, s)
  | s => (false, s)

/-- The integer that a text writes in decimal. -/
def readInteger (text : String) : Except NumeralError Int :=
  let (negative, s) := takeSign (text.toList.dropWhile numeralBlank)
  let (run, rest) := digitRun s
  if wellGrouped run then
    let digits := run.filter (· ≠ '_')
    match readNatural digits with
    | .error e => .error e
    | .ok n =>
      if rest.all numeralBlank then .ok (if negative then -(n : Int) else n)
      else .error (.malformed text)
  else .error (.malformed text)

end PatchReview.Text
