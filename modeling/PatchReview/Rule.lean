import PatchReview.Diff.AddedLines
import PatchReview.Finding
import PatchReview.Glob.Globstar
import PatchReview.Pattern.Matcher
import PatchReview.Pattern.Reader

/-! Rules for added lines.

A rule finds fault with every added line in which its pattern occurs, in the files that one
of its path patterns takes, or in all files if it has none. -/
namespace PatchReview

variable [Text.StandIns]

structure Rule where
  id : String
  /-- The pattern as it was written. -/
  source : String
  pattern : Pattern.Search
  severity : String
  rationale : String
  suggestion : String
  globs : List String
  enabled : Bool

namespace Rule

/-- The pattern of a rule; why it cannot be one. -/
def readPattern (id source : String) : Outcome Pattern.Search :=
  match Pattern.read source with
  | .ok pattern => .ok pattern
  | .error .clashingTables => .error .clashingTables
  | .error .hugeRepeat => .error .hugeRepeat
  | .error (.longCount digits) => .error (.numeral (.tooLong digits))
  | .error .tooDeep => .error .tooDeep
  | .error e => .error (.settings (.rulePattern id e.message))

/-- The path patterns that a value gives: a text is one, a list gives each of its items, and
what does not count as given is none. -/
def globsOf? : Option Value → Option (List Value)
  | some (.text s) => some (if s.isEmpty then [] else [.text s])
  | some (.list items) => some items
  | some v => if v.isFilled then none else some []
  | none => some []

/-- The rule that a table describes. -/
def ofEntries (raw : Entries) : Outcome Rule := do
  let textOf (name default : String) : Outcome String := Value.plainOr default (raw.get? name)
  match globsOf? (raw.get? "applies_to") with
  | none => throw (.settings (.ruleGlobs (← ((raw.get? "id").getD (.text "")).plainText)))
  | some globs =>
    let id ← textOf "id" ""
    let source ← textOf "pattern" ""
    let severity ← textOf "severity" Finding.defaultSeverity
    let rationale ← textOf "rationale" ""
    let suggestion ← textOf "suggestion" ""
    let globs ← globs.mapM Value.plainText
    if id.isEmpty || source.isEmpty then throw (.settings .ruleIncomplete)
    return {
      id := id
      source := source
      pattern := ← readPattern id source
      severity := severity
      rationale := rationale
      suggestion := suggestion
      globs := globs
      enabled := ((raw.get? "enabled").getD (.bool true)).isFilled }

/-- The table of a rule. -/
def entries (r : Rule) : Entries :=
  [("id", .text r.id), ("pattern", .text r.source), ("severity", .text r.severity),
    ("rationale", .text r.rationale), ("suggestion", .text r.suggestion),
    ("applies_to", Value.texts r.globs), ("enabled", .bool r.enabled)]

def value (r : Rule) : Value := .table r.entries

/-- Whether a rule is about a file. -/
def appliesTo (r : Rule) (file : String) : Bool :=
  r.globs.isEmpty || r.globs.any (Glob.Globstar.accepts · file)

/-- Whether a rule finds fault with a line. A match whose groups end before they start is a
failure. -/
def finds (r : Rule) (line : String) : Outcome Bool :=
  match r.pattern.first? (Text.Surrogate.codes line.toList).toArray with
  | none => .ok false
  | some marks => if marks.ordered then .ok true else .error .crossedGroup

/-- The finding of a rule in a line. -/
def finding (r : Rule) (file : String) (line : AddedLine) : Finding where
  ruleId := r.id
  title := r.id
  severity := r.severity
  file := file
  startLine := line.number
  endLine := line.number
  rationale := r.rationale
  suggestion := r.suggestion
  content := line.content
  fingerprint := none
  occurrences := none

/-- What one rule finds in the added lines of a file. -/
def findings (r : Rule) (file : String) (lines : List AddedLine) : Outcome (List Finding) := do
  if r.appliesTo file then
    return (← lines.filterM (r.finds ·.content)).map (r.finding file)
  return []

/-- What the enabled ones of some rules find in the added lines of a file, rule by rule. -/
def findingsOfAll (rules : List Rule) (file : String) (lines : List AddedLine) :
    Outcome (List Finding) := do
  return (← (rules.filter (·.enabled)).mapM (·.findings file lines)).flatten

end Rule

end PatchReview
