import PatchReview.Failure
import PatchReview.Report.Listing
import PatchReview.Report.Markdown
import PatchReview.Report.Summary

/-! The formats of a report. -/
namespace PatchReview

variable [Text.StandIns]

inductive ReportFormat where
  | json
  | summary
  | markdown
  deriving DecidableEq, Repr

namespace ReportFormat

variable {ν : Type} [LineMark ν]

def name : ReportFormat → String
  | json => "json"
  | summary => "summary"
  | markdown => "markdown"

/-- The formats in the order in which they are offered. -/
def all : List ReportFormat := [json, summary, markdown]

/-- The format of a name. -/
def named? (name : String) : Option ReportFormat := all.find? (·.name == name)

/-- The report of some findings, if the numbers in it can be written; `now` is the time it is
made. -/
def render (now : String) (findings : List (FindingOf ν)) : ReportFormat → Outcome String
  | json => Report.listingReport findings
  | summary => Report.summaryReport false findings
  | markdown => Report.markdownReport (some now) findings

/-- The report in the format of a name. -/
def renderNamed (now : String) (findings : List (FindingOf ν)) (name : String) : Outcome String :=
  match named? name with
  | some format => format.render now findings
  | none => .error (.unknownFormat name)

end ReportFormat

end PatchReview
