import PatchReview.Finding
import PatchReview.Text.Case

/-! Findings as plain text, two lines each; there is none if a line number is too long to be
written (`summaryReport`). -/
namespace PatchReview.Report

variable [Text.StandIns] {ν : Type} [LineMark ν]

/-- What stands for a report without findings. -/
def noFindings : String := "No findings.\n"

/-- The codes that terminals know the colour of a severity by. -/
def severityColours : List (String × Nat) :=
  [("critical", 31), ("major", 33), ("minor", 36), ("info", 34)]

/-- A control sequence for terminals. -/
def terminalCode (n : Nat) : String := s!"\x1b[{n}m"

/-- A text in bold and in the colour of a severity. -/
def coloured (severity text : String) : String :=
  let colour := (severityColours.lookup (Text.lower severity)).elim "" terminalCode
  colour ++ terminalCode 1 ++ text ++ terminalCode 0

/-- A severity as a tag. -/
def severityTag (colour : Bool) (severity : String) : String :=
  let tag := "[" ++ Text.upper severity ++ "]"
  if colour then coloured severity tag else tag

/-- The two lines of a finding. -/
def summaryLines (colour : Bool) (f : FindingOf ν) : String :=
  s!"- {severityTag colour f.severity} {f.ruleId} ({f.file}:{f.startText}-{f.endText}) " ++
    s!"{f.rationale}\n  Suggestion: {f.suggestion}\n"

/-- The findings as plain text. -/
def summary (colour : Bool) (findings : List (FindingOf ν)) : String :=
  if findings.isEmpty then noFindings
  else s!"Findings ({findings.length}):\n" ++ String.join (findings.map (summaryLines colour))

/-- Whether the lines that a finding is in can be written. -/
def hasWritableSpan (f : FindingOf ν) : Bool :=
  (LineMark.value f.startLine).isWritable && (LineMark.value f.endLine).isWritable

/-- The findings as plain text, if the numbers in it can be written. -/
def summaryReport (colour : Bool) (findings : List (FindingOf ν)) : Outcome String :=
  if findings.all hasWritableSpan then .ok (summary colour findings)
  else .error (.numeral .unwritable)

end PatchReview.Report
