/-! Places in a text, and what an attempt to match leaves behind.

An attempt notes on its way where groups start and end and which place it looked at last. It
leaves its notes behind whether it succeeds or not; who tries something else afterwards takes
back what must not stand. -/
namespace PatchReview.Pattern

/-- A text, by the code points of its characters. -/
abbrev Subject := Array Nat

/-- A place in a text: how many characters are before it. -/
abbrev Place := Nat

namespace Subject

/-- The character behind a place. -/
def next? (s : Subject) (p : Place) : Option Nat := s[p]?

/-- The character before a place. -/
def last? (s : Subject) : Place → Option Nat
  | 0 => none
  | p + 1 => s[p]?

/-- Whether at least `n` characters are left. -/
def leaves (s : Subject) (p : Place) (n : Nat) : Bool := p + n ≤ s.size

/-- The text from one place to another. -/
def between (s : Subject) (low high : Place) : List Nat := (s.extract low high).toList

end Subject

/-- The positions where groups start and end: the start of group `n` is mark `2n - 2`, its end
mark `2n - 1`. The list goes up to the last mark that has been set. -/
abbrev Marks := List (Option Nat)

namespace Marks

/-- Sets a mark; marks skipped on the way to it are blank. -/
def mark (marks : Marks) (index position : Nat) : Marks :=
  if index < marks.length then marks.set index (some position)
  else marks ++ List.replicate (index - marks.length) none ++ [some position]

/-- Marks the start of a group. -/
def opened (marks : Marks) (group position : Nat) : Marks := marks.mark (2 * group - 2) position

/-- Marks the end of a group. -/
def closed (marks : Marks) (group position : Nat) : Marks := marks.mark (2 * group - 1) position

/-- Start and end of a group as they are marked. -/
def ends? (marks : Marks) (group : Nat) : Option (Nat × Nat) :=
  match marks[2 * group - 2]?, marks[2 * group - 1]? with
  | some (some low), some (some high) => some (low, high)
  | _, _ => none

/-- Where a group has matched. -/
def span? (marks : Marks) (group : Nat) : Option (Nat × Nat) :=
  (marks.ends? group).filter fun (low, high) => low ≤ high

/-- Whether every group that has both marks starts no later than it ends. -/
def ordered : Marks → Bool
  | some low :: some high :: rest => low ≤ high && ordered rest
  | _ :: _ :: rest => ordered rest
  | _ => true

/-- What is kept of some marks when an attempt that started with `saved` is given up. Within a
repetition everything is as before; elsewhere marks that were there already keep what the
attempt has made of them. -/
def givenUp (marks saved : Marks) (enclosed : Bool) : Marks :=
  if enclosed then saved else marks.take saved.length

end Marks

/-- What an attempt leaves behind. -/
structure Trail where
  /-- The place looked at last. -/
  reached : Place
  marks : Marks
  deriving DecidableEq, Repr

/-- The trail with another last place. -/
def Trail.movedTo (t : Trail) (p : Place) : Trail := { t with reached := p }

/-- What an attempt comes to: the trail of a match, or that of a failure. -/
abbrev Attempt := Except Trail Trail

/-- What is to be matched from a place on, after what the trail tells. -/
abbrev Continue := Place → Trail → Attempt

/-- Nothing more is to be matched. -/
def arrive : Continue := fun p t => .ok (t.movedTo p)

/-- Goes on from a place, where a failure leads back to. -/
def Continue.orBack (k : Continue) : Continue := fun p t =>
  match k p (t.movedTo p) with
  | .ok t => .ok t
  | .error t => .error (t.movedTo p)

end PatchReview.Pattern
