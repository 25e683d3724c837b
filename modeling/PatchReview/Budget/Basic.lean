import PatchReview.Budget.Estimate
import PatchReview.Failure
import PatchReview.Value

/-! The budget of a review.

A budget has a cap on all tokens together and a cap for each file. What happens at the first
cap is up to the strategy: only the strategy `trim` stops there. -/
namespace PatchReview

variable [Text.StandIns]

/-- How many tokens a review may take, and of which family the model is. -/
structure Budget where
  globalCap : Int
  perFileCap : Int
  strategy : String
  /-- The name of the model's family in lower case. -/
  family : String
  deriving DecidableEq, Repr

namespace Budget

/-- The estimated tokens of a text. -/
def estimate (b : Budget) (text : String) : Nat := estimateFor b.family text

/-- Why a text has no estimate, if it has none: its bytes cannot be counted. -/
def estimateFault? (text : String) : Option Failure :=
  (Text.Utf8.encodeError? text.toList).map .notEncodable

/-- Whether a review that has used some tokens has to stop before taking more. -/
def shouldStop (b : Budget) (used incoming : Int) : Bool :=
  b.globalCap < used + incoming && b.strategy == "trim"

/-- What is left below the cap on all tokens. -/
def remaining (b : Budget) (used : Int) : Int := max 0 (b.globalCap - used)

end Budget

/-- The integer that a value stands for: numbers lose their fraction and texts are read. -/
def Value.toInteger : Value → Outcome Int
  | .int i => .ok i
  | .bool b => .ok (if b then 1 else 0)
  | .float x =>
    match x.truncate?, x with
    | some i, _ => .ok i
    | none, .nan => .error .undefinedInteger
    | none, _ => .error .infiniteInteger
  | .text s => (Text.readInteger s).mapError .numeral
  | v => .error (.noInteger v.kindName)

/-- The budget that a table of settings describes. -/
def Budget.ofEntries (entries : Entries) : Outcome Budget := do
  let integer (name : String) (default : Int) : Outcome Int :=
    ((entries.get? name).getD (.int default)).toInteger
  let text (name default : String) : Outcome String :=
    ((entries.get? name).getD (.text default)).plainText
  return {
    globalCap := ← integer "diff_token_limit" 8000
    perFileCap := ← integer "per_file_token_cap" 2000
    strategy := ← text "overflow_strategy" "trim"
    family := Text.lower (← text "provider" "openai") }

end PatchReview
