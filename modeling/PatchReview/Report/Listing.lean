import PatchReview.Finding
import PatchReview.Json.Writer

/-! Findings as a JSON list. -/
namespace PatchReview.Report

variable [Text.StandIns] {ν : Type} [LineMark ν]

/-- Four spaces a level, fields in their own order, every script as it is. -/
def listingLayout : Json.Layout := ⟨some 4, false, false⟩

/-- The findings as a JSON list. -/
def listing (findings : List (FindingOf ν)) : String :=
  match Json.write listingLayout (.list (findings.map (·.value))) with
  | .ok text => text
  | .error _ => ""

/-- The findings as a JSON list, if the numbers in it can be written. -/
def listingReport (findings : List (FindingOf ν)) : Outcome String :=
  Json.write listingLayout (.list (findings.map (·.value)))

end PatchReview.Report
