import PatchReview.Failure
import PatchReview.Text.Blank
import PatchReview.Value

/-! What a review finds.

A finding is about some lines of a file. Reviewers hand in tables whose fields need not be
there and may be of any kind: a text field takes the plain text of what counts as given, and
a line number is an integer or the text of one. A line that is neither falls back to the
first line, or to the start line for the end; only a text that is made of digits and still
writes no integer is refused.

Findings that are made by others may say in any way where they are; `FindingOf` is about
findings whatever their lines are given by, as long as these have a value. -/
namespace PatchReview

variable [Text.StandIns]

/-- What can say where a finding is: anything with a value. -/
class LineMark (ν : Type) where
  value : ν → Value

instance : LineMark Int := ⟨.int⟩

instance : LineMark Value := ⟨id⟩

/-- A finding in lines that are given by `ν`. -/
structure FindingOf (ν : Type) where
  ruleId : String
  title : String
  severity : String
  file : String
  startLine : ν
  endLine : ν
  rationale : String
  suggestion : String
  content : String
  fingerprint : Option String
  /-- How often the finding was seen; some reviewers only say whether it was. -/
  occurrences : Option Value
  deriving Repr

/-- A finding in lines that are given by number. -/
abbrev Finding := FindingOf Int

namespace FindingOf
variable {ν : Type} [LineMark ν]

/-- A field that is only there if it has a value. -/
def optionalField (name : String) (v : Option Value) : Entries :=
  match v with
  | some v => [(name, v)]
  | none => []

/-- The table of a finding. -/
def entries (f : FindingOf ν) : Entries :=
  [("rule_id", .text f.ruleId), ("title", .text f.title), ("severity", .text f.severity),
    ("file_path", .text f.file), ("start_line", LineMark.value f.startLine),
    ("end_line", LineMark.value f.endLine), ("rationale", .text f.rationale),
    ("suggestion", .text f.suggestion), ("content", .text f.content)] ++
  optionalField "aggregated_count" f.occurrences ++
  optionalField "fingerprint" (f.fingerprint.map .text)

def value (f : FindingOf ν) : Value := .table f.entries

/-- The start line as a text. -/
def startText (f : FindingOf ν) : String := (LineMark.value f.startLine).plain

/-- The end line as a text. -/
def endText (f : FindingOf ν) : String := (LineMark.value f.endLine).plain

end FindingOf

namespace Finding

/-- The severity of what is given none. -/
def defaultSeverity : String := "info"

/-- The line number that a value gives, or the default. -/
def lineOr (default : Int) : Option Value → Outcome Int
  | some (.int i) => .ok i
  | some (.text s) =>
    let digits := Text.trimmed s
    if !digits.isEmpty && digits.toList.all Text.isDigitLike then
      (Text.readInteger digits).mapError .numeral
    else .ok default
  | _ => .ok default

/-- The occurrences that a value gives: how many there were, or whether there were any. -/
def occurrencesOf? : Option Value → Option Value
  | some (.int n) => some (.int n)
  | some (.bool b) => some (.bool b)
  | _ => none

/-- The finding that a reviewer's table describes. -/
def ofEntries (raw : Entries) : Outcome Finding := do
  let startLine ← lineOr 1 (raw.get? "start_line" <|> raw.get? "line")
  let endLine ← lineOr startLine (raw.get? "end_line")
  let textOf (name default : String) : Outcome String := Value.plainOr default (raw.get? name)
  let ruleId ← Value.plainOr "" ((raw.get? "rule_id").filter Value.isFilled <|> raw.get? "id")
  return {
    ruleId := ruleId
    title := ← textOf "title" ruleId
    severity := ← textOf "severity" defaultSeverity
    file := ← Value.plainOr "" (raw.get? "file_path" <|> raw.get? "file")
    startLine := startLine
    endLine := endLine
    rationale := ← textOf "rationale" ""
    suggestion := ← textOf "suggestion" ""
    content := ← textOf "content" ""
    fingerprint := none
    occurrences := occurrencesOf? (raw.get? "aggregated_count") }

/-- The finding that a value describes, which has to be a table. -/
def ofValue : Value → Outcome Finding
  | .table raw => ofEntries raw
  | v => .error (.noFields v.kindName)

end Finding

end PatchReview
