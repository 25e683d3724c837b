import PatchReview.Files.Path
import PatchReview.Journal
import PatchReview.Policy.Settings
import PatchReview.Prompt
import PatchReview.Report.Format

/-! The settings of a review.

They say who reviews, how much of a diff, by which rules, what is published of the findings
and how. `entries` is the table of the settings; `ContextSettings.budget` is the budget they
give a reviewer, the one that the table describes (`ofEntries_entriesFor`). -/
namespace PatchReview

variable [Text.StandIns]

/-- What happens to a file for which the budget has no room. -/
inductive Overflow where
  | trim
  | keep
  deriving DecidableEq, Repr

def Overflow.name : Overflow → String
  | trim => "trim"
  | keep => "keep"

/-- How much of a diff is reviewed. -/
structure ContextSettings where
  tokenLimit : Nat
  fileCap : Nat
  overflow : Overflow
  /-- Whether chunks of one kind are grouped. -/
  byContext : Bool
  tokenLimit_pos : 0 < tokenLimit := by decide
  fileCap_pos : 0 < fileCap := by decide
  deriving DecidableEq, Repr

namespace ContextSettings

def default : ContextSettings where
  tokenLimit := 8000
  fileCap := 2000
  overflow := .trim
  byContext := false

def entries (c : ContextSettings) : Entries :=
  [("diff_token_limit", .int c.tokenLimit), ("per_file_token_cap", .int c.fileCap),
    ("overflow_strategy", .text c.overflow.name), ("enable_semantic_chunking", .bool c.byContext)]

/-- The table together with the name of a reviewer. -/
def entriesFor (c : ContextSettings) (reviewer : String) : Entries :=
  c.entries ++ [("provider", .text reviewer)]

/-- The budget of a reviewer. -/
def budget (c : ContextSettings) (reviewer : String) : Budget where
  globalCap := c.tokenLimit
  perFileCap := c.fileCap
  strategy := c.overflow.name
  family := Text.lower reviewer

theorem ofEntries_entriesFor (c : ContextSettings) (reviewer : String) :
    Budget.ofEntries (c.entriesFor reviewer) = .ok (c.budget reviewer) := rfl

end ContextSettings

/-- Where rules come from. -/
structure RuleSettings where
  /-- Patterns for the files that hold rules. -/
  included : List String
  /-- Rules given as tables. -/
  given : List Entries
  deriving Repr

def RuleSettings.entries (r : RuleSettings) : Entries :=
  [("include", Value.texts r.included), ("inline", .list (r.given.map .table))]

/-- What is told about a run while it goes on. -/
structure LoggingSettings where
  level : Level
  json : Bool
  deriving DecidableEq, Repr

def LoggingSettings.default : LoggingSettings := ⟨.warning, false⟩

structure Settings where
  reviewer : String
  format : ReportFormat
  excludes : List String
  guidelinesFile : Option String
  context : ContextSettings
  policy : PolicySettings
  rules : RuleSettings
  prompts : Prompts
  logging : LoggingSettings
  /-- The directory from which paths in the settings start. -/
  root : Option Path
  /-- The file that the settings come from. -/
  source : Option String
  deriving Repr

namespace Settings

def default (root : Option Path) : Settings where
  reviewer := "mock"
  format := .summary
  excludes := []
  guidelinesFile := none
  context := .default
  policy := .default
  rules := ⟨[], []⟩
  prompts := .none
  logging := .default
  root := root
  source := none

/-- A text that may be missing. -/
def textOrNull : Option String → Value
  | some s => .text s
  | none => .null

/-- The table of the settings. -/
def entries (s : Settings) : Entries :=
  [("provider", .text s.reviewer), ("format", .text s.format.name),
    ("excludes", Value.texts s.excludes), ("guidelines_file", textOrNull s.guidelinesFile),
    ("context", .table s.context.entries), ("policy", .table s.policy.entries),
    ("rules", .table s.rules.entries),
    ("prompts", .table [("system_append", Value.texts s.prompts.toSystem),
      ("user_append", Value.texts s.prompts.toUser), ("extra", Value.texts s.prompts.extra)]),
    ("logging", .table [("level", .text s.logging.level.name), ("json", .bool s.logging.json)]),
    ("source", textOrNull s.source)]

end Settings

end PatchReview
