import PatchReview.Settings.Basic
import PatchReview.Settings.Checks
import PatchReview.Settings.Environment
import PatchReview.Settings.Guidelines

/-! Settings from tables.

Fields are checked one after the other, and the first one that does not hold what it may is
what a table is refused for. References to the environment are replaced before that. -/
namespace PatchReview

variable [Text.StandIns]

/-- A field, or what it holds by default. -/
def Entries.field (raw : Entries) (name : String) (default : Value) : Value :=
  (raw.get? name).getD default

namespace Settings

def checkContext (raw : Entries) : Outcome ContextSettings := do
  let strategy := Text.lower (← (raw.field "overflow_strategy" (.text "trim")).plainText)
  let limit ← checkPositive "context.diff_token_limit" (raw.field "diff_token_limit" (.int 8000))
  let cap ← checkPositive "context.per_file_token_cap" (raw.field "per_file_token_cap" (.int 2000))
  let byContext ←
    checkBoolean "context.enable_semantic_chunking"
      (raw.field "enable_semantic_chunking" (.bool false))
  return ⟨limit, cap, if strategy == "keep" then .keep else .trim, byContext, limit.2, cap.2⟩

def checkLimits (limits : Entries) : Outcome (Keyed String Int) := do
  let limits ← limits.mapM fun (name, v) => do
    return (Text.lower name, ← checkInteger ("policy.severity_limits." ++ name) v)
  return Keyed.ofList limits

def checkPolicy (raw : Entries) : Outcome PolicySettings := do
  let limits ← checkTable "policy.severity_limits" (raw.get? "severity_limits")
  let severity := Text.lower (← (raw.field "min_severity_to_comment" (.text "info")).plainText)
  let maxComments ← checkInteger "policy.max_comments" (raw.field "max_comments" (.int 50))
  let redact ← checkBoolean "policy.redact_secrets" (raw.field "redact_secrets" (.bool true))
  let consolidate ←
    checkBoolean "policy.consolidate_similar_findings"
      (raw.field "consolidate_similar_findings" (.bool false))
  let maxPerFile ←
    checkInteger "policy.max_findings_per_file" (raw.field "max_findings_per_file" (.int 5))
  return ⟨severity, maxComments, redact, consolidate, maxPerFile, ← checkLimits limits⟩

def checkRules (raw : Entries) : Outcome RuleSettings := do
  let included ← checkTexts "rules.include" (raw.get? "include")
  return ⟨included, ← checkTables "rules.inline" (raw.get? "inline")⟩

def checkPrompts (raw : Entries) : Outcome Prompts := do
  let toSystem ← checkTextOrTexts "prompts.system_append" (raw.get? "system_append")
  let toUser ← checkTextOrTexts "prompts.user_append" (raw.get? "user_append")
  return ⟨toSystem, toUser, ← checkTextOrTexts "prompts.extra" (raw.get? "extra")⟩

def checkLogging (raw : Entries) : Outcome LoggingSettings := do
  let level ←
    checkChoice "logging.level" [.debug, .info, .warning, .error] Level.name
      (raw.field "level" (.text "warning"))
  return ⟨level, ← checkBoolean "logging.json" (raw.field "json" (.bool false))⟩

/-- The name of the reviewer, which is not blank. -/
def checkReviewer : Value → Outcome String
  | .text s => if Text.isBlankText s then refuse .reviewerMissing else .ok s
  | _ => refuse .reviewerMissing

def checkGuidelinesFile : Option Value → Outcome (Option String)
  | none | some .null => .ok none
  | some (.text s) => .ok (some s)
  | some _ => refuse .guidelinesNotText

/-- A path in the settings as it starts from their root. -/
def fromRoot (root : Option Path) (text : String) : Path :=
  match root with
  | some root => root.join (.ofText text)
  | none => .ofText text

/-- The settings in the fields behind the prompts. -/
def checkRest (raw : Entries) (reviewer : String) (guidelines : Option String) (prompts : Prompts)
    (root : Option Path) (source : Option String) : Outcome Settings := do
  let format ← checkChoice "format" ReportFormat.all ReportFormat.name
    (raw.field "format" (.text "summary"))
  let excludes ← checkTexts "excludes" (raw.get? "excludes")
  let context ← checkContext (← checkTable "context" (raw.get? "context"))
  let policy ← checkPolicy (← checkTable "policy" (raw.get? "policy"))
  let rules ← checkRules (← checkTable "rules" (raw.get? "rules"))
  let logging ← checkLogging (← checkTable "logging" (raw.get? "logging"))
  return {
    reviewer := Text.lower (Text.trimmed reviewer)
    format := format
    excludes := excludes
    guidelinesFile := guidelines
    context := context
    policy := policy
    rules := rules
    prompts := prompts
    logging := logging
    root := root
    source := source }

/-- The settings that a table describes. -/
def ofEntries (env : Environment) (files : Files) (root : Option Path) (source : Option String)
    (raw : Entries) : Logged Settings := do
  let raw ← env.expandTable raw
  let reviewer ← checkReviewer (raw.field "provider" (.text "mock"))
  let guidelines ← checkGuidelinesFile (raw.get? "guidelines_file")
  let prompts ← checkPrompts (← checkTable "prompts" (raw.get? "prompts"))
  let prompts ← match guidelines with
    | none | some "" => pure prompts
    | some text => prompts.withGuidelines files (fromRoot root text)
  checkRest raw reviewer guidelines prompts root source

end Settings

end PatchReview
