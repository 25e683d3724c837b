import PatchReview.Finding
import PatchReview.Keyed
import PatchReview.Text.Case
import PatchReview.Text.Order

/-! Findings as a Markdown report.

The report counts the findings of each severity, the known severities first and in falling
order, and lists the findings file by file; files come in the order of their names. There is no
report if a number in it is too long to be written (`markdownReport`). -/
namespace PatchReview.Report

variable [Text.StandIns] {ν : Type} [LineMark ν]

/-- The known severities in falling order, with their signs. -/
def severitySigns : List (String × String) :=
  [("critical", "🔴"), ("major", "🟠"), ("minor", "🟡"), ("info", "🔵")]

/-- The sign of a severity. -/
def severitySign (severity : String) : String :=
  (severitySigns.lookup (Text.lower severity)).getD "⚪"

/-- The place of a severity in the report. -/
def severityPlace (severity : String) : Nat :=
  (severitySigns.map (·.1)).idxOf severity

/-- How many findings there are of each severity, in lower case. -/
def severityCounts (findings : List (FindingOf ν)) : Keyed String Nat :=
  findings.foldl (fun counts f => counts.alter (Text.lower f.severity) (·.getD 0 + 1)) []

/-- Whether a severity comes before another, or is the same. -/
def severityBefore (a b : String) : Bool :=
  severityPlace a < severityPlace b || (severityPlace a == severityPlace b && Text.inOrder a b)

/-- The counts in the order of the report. -/
def severityTable (findings : List (FindingOf ν)) : List (String × Nat) :=
  (severityCounts findings).mergeSort fun a b => severityBefore a.1 b.1

/-- The name of a finding's file. -/
def fileName (f : FindingOf ν) : String := if f.file.isEmpty then "unknown" else f.file

/-- The findings by file, files in the order of their names. -/
def fileSections (findings : List (FindingOf ν)) : List (String × List (FindingOf ν)) :=
  let byFile : Keyed String (List (FindingOf ν)) :=
    findings.foldl (fun files f => files.alter (fileName f) (·.getD [] ++ [f])) []
  byFile.mergeSort fun a b => Text.inOrder a.1 b.1

/-- How often a finding was seen, if that is worth a line. -/
def occurrencesText? (f : FindingOf ν) : Option String :=
  (f.occurrences.filter Value.isFilled).map Value.plain

/-- Lines that are only there if a text is not empty. -/
def linesIf (text : String) (lines : List String) : List String :=
  if text.isEmpty then [] else lines

/-- The lines of a finding. -/
def findingLines (f : FindingOf ν) : List String :=
  [s!"#### {severitySign f.severity} {if f.title.isEmpty then f.ruleId else f.title}", "",
    s!"- **Line:** {f.startText}", s!"- **Severity:** {f.severity}"] ++
  linesIf f.ruleId ["- **Rule:** \x60" ++ f.ruleId ++ "\x60"] ++
  (occurrencesText? f).elim [] (fun n => ["- **Occurrences:** " ++ n]) ++
  [""] ++
  linesIf f.rationale ["**Rationale:** " ++ f.rationale, ""] ++
  linesIf f.suggestion ["**Suggestion:** " ++ f.suggestion, ""] ++
  ["---", ""]

/-- The lines of a file's findings. -/
def sectionLines (file : String) (findings : List (FindingOf ν)) : List String :=
  ["### 📄 \x60" ++ file ++ "\x60", ""] ++ findings.flatMap findingLines

/-- The lines that say when the report was made. -/
def metadataLines (generated : Option String) : List String :=
  generated.elim [] fun time => ["## 📋 Metadata", "", "- **Generated:** " ++ time]

/-- The lines of a report with findings. -/
def markdownLines (generated : Option String) (findings : List (FindingOf ν)) : List String :=
  ["# 🔍 Code Review Results", "", "## 📊 Summary", "", s!"**Total Issues:** {findings.length}", "",
    "### By Severity", ""] ++
  (severityTable findings).map (fun (severity, count) =>
    s!"- {severitySign severity} **{severity}**: {count}") ++
  ["", "## 🚨 Issues Found", ""] ++
  (fileSections findings).flatMap (fun (file, members) => sectionLines file members) ++
  metadataLines generated

/-- A report without findings. -/
def emptyMarkdown : String :=
  "# 🎉 Code Review Results\n\n## ✅ No Issues Found\n\n" ++
    "No issues were identified in the code review.\n"

/-- The findings as a Markdown report, with the time it was made if that is given. -/
def markdown (generated : Option String) (findings : List (FindingOf ν)) : String :=
  if findings.isEmpty then emptyMarkdown
  else "\n".intercalate (markdownLines generated findings) ++ "\n"

/-- Whether the numbers in the lines of a finding can be written. -/
def numbersWritten (writes : Value → Bool) (f : FindingOf ν) : Bool :=
  writes (LineMark.value f.startLine) && (f.occurrences.filter Value.isFilled).all writes

/-- The Markdown report, if the numbers in it are among those that can be written. -/
def markdownReportWith (writes : Value → Bool) (generated : Option String)
    (findings : List (FindingOf ν)) : Outcome String :=
  if findings.all (numbersWritten writes) then .ok (markdown generated findings)
  else .error (.numeral .unwritable)

/-- The Markdown report, if the numbers in it have no more digits than can be written. -/
def markdownReport (generated : Option String) (findings : List (FindingOf ν)) : Outcome String :=
  markdownReportWith Value.isWritable generated findings

end PatchReview.Report
