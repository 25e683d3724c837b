import PatchReview.Chunk
import PatchReview.Policy.Selection
import PatchReview.Reviewer
import PatchReview.RuleSet
import PatchReview.Settings.Basic

/-! A review of a diff.

The reviewer is given the chunks of the diff and the rules are matched with its added lines;
files that are left out take part in neither. What both find, the rules first, goes through
the policy. -/
namespace PatchReview

variable [Text.StandIns]

structure Review where
  settings : Settings
  reviewer : Reviewer
  rules : List Rule

namespace Review

/-- A review by some settings, with the rules that they name. -/
def ofSettings (files : Files) (settings : Settings) (reviewer : Reviewer) : Logged Review := do
  let rules ← RuleSet.ofEntries files settings.root settings.rules.entries
  return ⟨settings, reviewer, rules⟩

/-- The chunks of a diff. -/
def chunks (r : Review) (diff : String) : Logged (List Chunk) :=
  Chunk.ofDiff (r.settings.context.budget r.reviewer.name) r.settings.context.byContext
    r.settings.excludes diff

/-- What the rules find in the files of a diff that are not left out. -/
def ruleFindingsIn (r : Review) : AddedLines → Outcome (List Finding)
  | [] => .ok []
  | (file, lines) :: rest => do
    let found ← if ← Diff.isExcluded r.settings.excludes file then pure []
      else Rule.findingsOfAll r.rules file lines
    return found ++ (← ruleFindingsIn r rest)

/-- What the rules find in a diff. -/
def ruleFindings (r : Review) (diff : String) : Outcome (List Finding) := do
  r.ruleFindingsIn (← (AddedLines.ofDiff diff).mapError Failure.numeral)

/-- What the reviewer finds in some chunks; a reviewer that gives up is written down. -/
def reviewerFindings (r : Review) (chunks : List Chunk) : Logged (List Finding) :=
  match r.reviewer.review chunks with
  | .ok findings => return findings
  | .error e => do
    match e with
    | .reviewer message => record (.reviewerFailed r.reviewer.name message)
    | _ => pure ()
    throw e

/-- What is published of all findings in a diff. -/
def findings (r : Review) (diff : String) : Logged (List Finding) := do
  let chunks ← r.chunks diff
  let reviewed ← r.reviewerFindings chunks
  let all := (← r.ruleFindings diff) ++ reviewed
  let published ← r.settings.policy.selection all
  record (.reviewCompleted chunks.length all.length published.length)
  return published

/-- The diff in a file. -/
def readDiff (files : Files) (path : Path) : Outcome String := do
  if ← files.isFile path then
    (files.readLeniently path).mapError fun e => .diffFile (.unreadable path.text e)
  else throw (.diffFile (.notFound path.text))

/-- What is published of all findings in the diff in a file. -/
def findingsInFile (r : Review) (files : Files) (path : Path) : Logged (List Finding) := do
  r.findings (← readDiff files path)

/-- What it comes to in a whole run that a report cannot be written. -/
def reportFailure : Failure → Failure
  | .numeral e => .runReport e
  | e => e

/-- The report about the diff in a file, in the format of a name; `now` is the time. -/
def report (r : Review) (files : Files) (now : String) (path : Path) (format : String) :
    Logged String := do
  match ReportFormat.named? format with
  | none => throw (.unknownRunFormat format)
  | some format => (format.render now (← r.findingsInFile files path)).mapError reportFailure

end Review

end PatchReview
