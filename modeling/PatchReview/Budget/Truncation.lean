import PatchReview.Budget.Basic
import PatchReview.Budget.Priority
import PatchReview.Text.Lines

/-! Cutting a text down to the cap for a file.

Of a text that is too long the important lines are kept, then as many comments, in order, as
still fit. If the important lines alone are too long, the end is cut off, each time in
proportion to what is too much and by one character at least. A cap below zero can never be
met: the text is cut to nothing and then there is nothing left to take a share of, unless the
share was beyond all numbers before (`shareFault?`).

Estimates are asked for through a monad, so that the same steps can be taken with a memory
of estimates or without one (`Budget.enforceCap`). -/
namespace PatchReview.Budget

open Text

/-- The lines of a text. -/
def linesOf (text : String) : List (List Char) := splitNewlines text.toList

/-- The lines kept first: headers, changes and declarations. -/
def importantLines (text : String) : List (List Char) := (linesOf text).filter (3 ≤ linePriority ·)

/-- The lines kept as far as they fit: comments. -/
def remarkLines (text : String) : List (List Char) := (linesOf text).filter (linePriority · == 2)

/-- A text with one more line. -/
def withLine (text : String) (line : List Char) : String :=
  if text.isEmpty then String.ofList line else text ++ "\n" ++ String.ofList line

/-- How long a text should be to have `cap` tokens instead of `tokens`, which is not zero. -/
def shareOf (cap : Int) (tokens length : Nat) : Int :=
  let share := Binary64.ofRatio (cap < 0) cap.natAbs tokens
  (((Binary64.ofInt length).mul share).truncate?).getD 0

/-- Why there is no such length: a share of a cap far below zero is beyond all numbers. -/
def shareFault? (cap : Int) (tokens length : Nat) : Option Failure :=
  if 0 ≤ cap then none
  else
    match Binary64.ofRatio true cap.natAbs tokens with
    | .finite s m e =>
      if ((Binary64.ofInt length).mul (.finite s m e)).truncate?.isSome then none
      else some .infiniteInteger
    | _ => some .hugeShare

/-- The first `n` characters; a negative number of characters is taken off the end. -/
def cutTo (n : Int) (text : String) : String :=
  let s := text.toList
  String.ofList (s.take (if n < 0 then s.length - n.natAbs else n.toNat))

/-- A text cut down once. -/
def cutOnce (cap : Int) (text : String) (tokens : Nat) : String :=
  cutTo (min (shareOf cap tokens text.length) (text.length - 1)) text

section
variable [StandIns] {m : Type → Type} [Monad m] (estimate : String → m Nat) (cap : Int)

/-- Adds lines to a text as long as it stays below the cap. -/
def addRemarks : String → Nat → List (List Char) → m (String × Nat)
  | text, tokens, [] => pure (text, tokens)
  | text, tokens, line :: rest => do
    let candidate := withLine text line
    let n ← estimate candidate
    if cap < n then pure (text, tokens) else addRemarks candidate n rest

/-- Cuts a text of `tokens` tokens until it is below the cap, in so many steps at most. -/
def shrink : Nat → String → Nat → m (Outcome String)
  | 0, text, _ => pure (.ok text)
  | steps + 1, text, tokens =>
    if (tokens : Int) ≤ cap then pure (.ok text)
    else if tokens = 0 then pure (.error .divisionByZero)
    else
      match shareFault? cap tokens text.length with
      | some e => pure (.error e)
      | none => do
        let shorter := cutOnce cap text tokens
        let n ← estimate shorter
        shrink steps shorter n

/-- A text that is too long, cut down. -/
def truncate (text : String) : m (Outcome String) := do
  let important := String.ofList (joinLines (importantLines text))
  let tokens ← estimate important
  let (kept, tokens) ← addRemarks estimate cap important tokens (remarkLines text)
  shrink estimate cap (kept.length + 2) kept tokens

/-- The text itself if it is below the cap, and otherwise the text cut down. A text without an
estimate cannot be compared with the cap; one that has an estimate has one for each part. -/
def enforce (text : String) : m (Outcome String) :=
  match estimateFault? text with
  | some e => pure (.error e)
  | none => do
    let tokens ← estimate text
    if (tokens : Int) ≤ cap then pure (.ok text) else truncate estimate cap text

end

/-- A text below the cap for a file. -/
def enforceCap [StandIns] (b : Budget) (text : String) : Outcome String :=
  Id.run (enforce (fun s => pure (b.estimate s)) b.perFileCap text)

end PatchReview.Budget
