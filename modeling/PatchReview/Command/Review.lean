import PatchReview.Command.Source
import PatchReview.Settings.Loading

/-! The commands that work on a diff.

A review prints what is published of its findings, and fails if one of them is as severe as
asked for or more. The other command prints the chunks that a reviewer would be given. -/
namespace PatchReview.Command

variable [Text.StandIns]

/-- The settings of a repository. -/
def settingsOf (s : Surroundings) (log : LoggingSettings) (repository : Path)
    (asked : Option Path) : Run Settings :=
  blaming s log .whole (Settings.load s.environment s.files repository asked)

/-- The reviewer of a name, or of the settings, with the rules of the settings. -/
def reviewOf (s : Surroundings) (log : LoggingSettings) (settings : Settings)
    (name : Option String) : Run Review :=
  blaming s log .whole do
    match Registry.builtIn.choose none name settings.reviewer with
    | .error e => throw (.settings e)
    | .ok reviewer => Review.ofSettings s.files settings reviewer

/-- A value that has to be usable, or why it is not. -/
def usable {α : Type} (a : Except UsageError α) : Run α :=
  match a with
  | .ok a => return a
  | .error e => throw (.usage e)

/-! ### Reviewing -/

/-- The level of events that are told about; a name that is none stands for warnings. -/
def levelOf (name : Option String) : Level :=
  match name with
  | none => .warning
  | some name => (Level.named? (Text.lower name)).getD .warning

/-- What is told about a run: as the options say, or if they give no level, as the settings do. -/
def loggingOf (o : ReviewOptions) (l : LoggingSettings) : LoggingSettings :=
  match o.logLevel with
  | some name => ⟨levelOf name, o.logJson⟩
  | none => ⟨l.level, o.logJson || l.json⟩

def formatOf (given : Option String) (settings : Settings) : Except UsageError ReportFormat :=
  let name := match given with | none | some "" => settings.format.name | some name => name
  match ReportFormat.named? (Text.lower name) with
  | some format => .ok format
  | none => .error .reportFormat

/-- The rank from which on findings make a review fail. -/
def thresholdOf : Option String → Except UsageError (Option Nat)
  | none => .ok none
  | some name =>
    if severities.contains (Text.lower name) then .ok (some (severityRank name))
    else .error .severity

/-- Whether some findings make a review fail. -/
def fails (threshold : Option Nat) (findings : List Finding) : Bool :=
  match threshold with
  | none => false
  | some rank => findings.any fun f => rank ≤ severityRank f.severity

/-- The report on some findings as a review prints it, if the numbers in it can be written. -/
def reportText (s : Surroundings) (colour : Bool) (findings : List Finding) :
    ReportFormat → Outcome String
  | .json => (Report.listingReport findings).map (· ++ "\n")
  | .summary => Report.summaryReport colour findings
  | .markdown => Report.markdownReport (some s.reportTime) findings

/-- What a review is done with. -/
structure Prepared where
  log : LoggingSettings
  format : ReportFormat
  threshold : Option Nat
  review : Review
  source : Source

/-- Makes ready what was asked for. -/
def prepare (s : Surroundings) (o : ReviewOptions) : Run Prepared := do
  let settings ← settingsOf s ⟨levelOf o.logLevel, o.logJson⟩ o.repository o.settingsFile
  let log := loggingOf o settings.logging
  let format ← usable (formatOf o.format settings)
  let threshold ← usable (thresholdOf o.failOn)
  let review ← reviewOf s log settings o.reviewer
  let source ← sourceOf s o.repository o.source
  return ⟨log, format, threshold, review, source⟩

def reviewDiff (s : Surroundings) (o : ReviewOptions) : Run Unit := do
  let ready ← prepare s o
  let findings ← reporting s ready.log do ready.review.findings (← ready.source.read s.files)
  print s (← needed (reportText s o.colour findings ready.format))
  if fails ready.threshold findings then throw .unsuccessful

/-! ### Chunks -/

/-- Four spaces a level, keys in order, characters beyond ASCII escaped. -/
def chunkLayout : Json.Layout := ⟨some 4, true, true⟩

def chunkEntries (c : Chunk) : Entries :=
  [("file", .text c.file), ("unified_diff", .text c.diff)] ++
    c.startLine.elim [] fun n => [("start_line", .int n)]

/-- What is printed about the chunks for a reviewer. -/
def chunkListing (context : ContextSettings) (reviewer : String) (chunks : List Chunk) : Value :=
  .table [("chunks", .list (chunks.map fun c => .table (chunkEntries c))),
    ("meta", .table [("provider", .text reviewer),
      ("context", .table (context.entriesFor reviewer))])]

/-- Prints a value as JSON. -/
def printJson (s : Surroundings) (layout : Json.Layout) (v : Value) : Run Unit := do
  print s ((← needed (Json.write layout v)) ++ "\n")

def listChunks (s : Surroundings) (o : ChunkOptions) : Run Unit := do
  let log := LoggingSettings.default
  let settings ← settingsOf s log o.repository o.settingsFile
  let review ← reviewOf s log settings o.reviewer
  let source ← sourceOf s o.repository o.source
  let chunks ← reporting s log do review.chunks (← source.read s.files)
  printJson s chunkLayout (chunkListing settings.context review.reviewer.name chunks)

end PatchReview.Command
