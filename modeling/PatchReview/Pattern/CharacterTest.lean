import PatchReview.Pattern.Folding

/-! Tests for single characters.

A test is made once of a node and asked often, so it keeps what does not depend on the
character: the forms of a letter, and for sets a table of the characters of ASCII. -/
namespace PatchReview.Pattern

def newline : Nat := '\n'.toNat

/-- What decides whether a single character is taken. -/
structure CharacterTest where
  holds : Nat → Bool
  /-- Whether each character that is taken in a repetition is noted as looked at. -/
  noted : Bool

namespace CharacterTest

/-- The test for the characters that do not pass another one. -/
def others (test : CharacterTest) : CharacterTest := { test with holds := fun c => !test.holds c }

/-- The test for any character, or any but the newline. -/
def any (all : Bool) : CharacterTest := ⟨fun c => all || c != newline, false⟩

/-- The test for a character that stands for the code point `n`. -/
def ofCode (folding : Folding) (n : Nat) : CharacterTest :=
  match folding with
  | .exact => ⟨(· == n), false⟩
  | _ =>
    let forms := folding.forms (folding.fold n)
    ⟨fun c => forms.contains (folding.fold c), 1 < forms.length⟩

/-- A test that looks the characters of ASCII up in a table. -/
def tabled (test : CharacterTest) : CharacterTest :=
  let table := (Array.range 128).map test.holds
  { test with holds := fun c => if h : c < table.size then table[c] else test.holds c }

/-- The test for the characters of a set. One that is compared without case takes note of every
character, all others are counted in one go. -/
def ofSet (folding : Folding) (negated : Bool) (items : List SetItem) : CharacterTest :=
  let test : CharacterTest := ⟨setTakes folding negated items, folding ≠ .exact⟩
  if folding = .exact then test.tabled else test

end CharacterTest

end PatchReview.Pattern
