import PatchReview.Command.Review
import PatchReview.Settings.Template

/-! The commands that show or write settings. -/
namespace PatchReview.Command

variable [Text.StandIns]

/-- One line, keys in order, characters beyond ASCII escaped. -/
def listingLayout : Json.Layout := ⟨none, true, true⟩

def listingFormat (name : String) : Except UsageError ListingFormat :=
  match ListingFormat.named? (Text.lower name) with
  | some format => .ok format
  | none => .error .listingFormat

/-- The rules that some settings name. -/
def rulesOf (s : Surroundings) (settings : Settings) : Run (List Rule) :=
  blaming s .default .rules (RuleSet.ofEntries s.files settings.root settings.rules.entries)

/-- Prints lines. -/
def printLines (s : Surroundings) (lines : List String) : Run Unit :=
  print s ("\n".intercalate lines ++ "\n")

/-- The line about a rule. -/
def ruleLine (r : Rule) : String :=
  let state := if r.enabled then "enabled" else "disabled"
  let listed := ", ".intercalate r.globs
  let globs := if listed.isEmpty then "**" else listed
  s!"- {r.id} [{state}] {r.severity} ({globs}) - {r.rationale}"

def listRules (s : Surroundings) (o : ListingOptions) : Run Unit := do
  let format ← usable (listingFormat o.format)
  let settings ← settingsOf s .default o.repository o.settingsFile
  let rules ← rulesOf s settings
  match format with
  | .json =>
    printJson s listingLayout (.table [("rules", .list (rules.map (·.value))),
      ("meta", .table [("config_source", Settings.textOrNull settings.source)])])
  | .human =>
    if rules.isEmpty then printLines s ["No rules configured."]
    else printLines s ("Configured rules:" :: rules.map ruleLine)

/-- What is shown of the settings, by name. -/
def shownSettings (settings : Settings) (active : Value) : Entries :=
  let source := match settings.source with | none | some "" => "defaults" | some source => source
  [("source", .text source), ("provider", .text settings.reviewer),
    ("format", .text settings.format.name), ("excludes", Value.texts settings.excludes)] ++
    settings.context.entries.map (fun (name, v) => ("context." ++ name, v)) ++
    [("policy.min_severity_to_comment", .text settings.policy.leastSeverity),
      ("policy.max_comments", .int settings.policy.maxComments), ("active_rule_ids", active)]

def listSettings (s : Surroundings) (o : ListingOptions) : Run Unit := do
  let format ← usable (listingFormat o.format)
  let settings ← settingsOf s .default o.repository o.settingsFile
  let rules ← rulesOf s settings
  let active := Value.texts ((rules.filter (·.enabled)).map (·.id))
  match format with
  | .json => printJson s listingLayout (.table (settings.entries ++ [("active_rule_ids", active)]))
  | .human =>
    let lines ← (shownSettings settings active).mapM fun (name, v) =>
      return s!"- {name}: {← needed v.plainText}"
    printLines s ("Resolved configuration:" :: lines)

/-- Writes settings to start from. -/
def writeStart (s : Surroundings) (out : Path) (force : Bool) : Run Unit := do
  let target := s.files.resolve out
  if (← needed (s.files.exists? (Location.path target))) && !force then
    throw (.usage (.fileExists (Location.text target)))
  match s.files.write target (Text.Utf8.encode Settings.template.toList) with
  | .error e => throw (.failure (.file e))
  | .ok files =>
    modify fun p => { p with files := files }
    printLines s ["Wrote starter config: " ++ Location.text target]

end PatchReview.Command
