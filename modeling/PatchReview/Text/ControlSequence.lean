import PatchReview.Text.Hex

/-! Control characters, and control sequences for terminals.

A sequence is an escape character, an opening bracket, numbers with their separators and a
letter. `without` leaves out all of them, for readers that are no terminals. Where a text is
shown as it was given, its control characters are spelled, so that they have no effect. -/
namespace PatchReview.Text

/-- Whether a character is a control character. -/
def isControl (c : Char) : Bool := c.toNat < 0x20 || 0x7F ≤ c.toNat && c.toNat < 0xA0

/-- A control character by its number, any other character as it is. -/
def spelledControl (c : Char) : List Char :=
  if isControl c then '\\' :: 'x' :: hexDigits c.toNat 2 else [c]

/-- A text with its control characters spelled. -/
def withControlsSpelled (s : String) : String := String.ofList (s.toList.flatMap spelledControl)

namespace ControlSequence

/-- Numbers, semicolons and question marks. -/
def isParameter (c : Char) : Bool := c.isDigit || c == ';' || c == '?'

/-- The rest behind a control sequence. -/
def after? : List Char → Option (List Char)
  | '\x1b' :: '[' :: s =>
    match s.dropWhile isParameter with
    | c :: rest => if c.isAlpha then some rest else none
    | [] => none
  | _ => none

theorem length_of_after? {s rest : List Char} (h : after? s = some rest) :
    rest.length < s.length := by
  unfold after? at h
  split at h
  · next s =>
    have hs := (List.dropWhile_sublist isParameter (l := s)).length_le
    split at h
    · next c r hd =>
      simp only [hd, List.length_cons] at hs
      split at h <;> simp_all
      omega
    · cases h
  · cases h

/-- A text without its control sequences. -/
def without : List Char → List Char
  | [] => []
  | c :: s =>
    match _h : after? (c :: s) with
    | some rest => without rest
    | none => c :: without s
termination_by s => s.length
decreasing_by
  · exact length_of_after? _h
  · exact Nat.lt_succ_self _

end ControlSequence

end PatchReview.Text
