import PatchReview.Budget.Truncation
import PatchReview.Digest.Md5
import PatchReview.Keyed

/-! Remembering estimates.

An estimate that has been made is remembered under the digest of its text, so that the same
text is not measured twice. -/
namespace PatchReview.Budget

variable [Text.StandIns]

/-- The estimates made so far, by digest. -/
abbrev Memo := Keyed String Nat

/-- The digest of a text. -/
def digestOf (text : String) : String :=
  Digest.hex (Digest.Md5.digest (Text.Utf8.encode text.toList))

/-- The estimate of a text, remembered or made now. -/
def estimateWithMemo (b : Budget) (text : String) : StateM Memo Nat := do
  let memo ← get
  match memo.get? (digestOf text) with
  | some tokens => return tokens
  | none =>
    let tokens := b.estimate text
    set (memo.put (digestOf text) tokens)
    return tokens

/-- The estimate of a text, remembered or made now, if it has one. -/
def estimateKnown (b : Budget) (text : String) : StateM Memo (Outcome Nat) := do
  match estimateFault? text with
  | some e => return .error e
  | none => return .ok (← b.estimateWithMemo text)

/-- A text below the cap for a file, with remembered estimates. -/
def enforceCapWithMemo (b : Budget) (text : String) : StateM Memo (Outcome String) :=
  enforce b.estimateWithMemo b.perFileCap text

end PatchReview.Budget
