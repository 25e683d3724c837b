import PatchReview.Files.Expansion
import PatchReview.Journal
import PatchReview.Json.Reader
import PatchReview.Rule
import PatchReview.Toml.Reader

/-! The rules of a review.

Some rules are given as tables; others stand in files that are named by patterns. A bad rule
among those that are given is a failure. A bad rule in a file is passed over, and so is a
file that cannot be read or holds no rules; each time that is written into the journal. -/
namespace PatchReview.RuleSet

variable [Text.StandIns]

/-- The rule that an item describes. -/
def ofItem : Value → Outcome Rule
  | .table raw => Rule.ofEntries raw
  | _ => .error (.settings .inlineRules)

/-- The rules that are given. -/
def given (v : Option Value) : Outcome (List Rule) :=
  match v with
  | some (.list items) => items.mapM ofItem
  | some v => if v.isFilled then .error (.settings .inlineRules) else .ok []
  | none => .ok []

/-- The patterns among some items; what is no text, or empty, is no pattern. -/
def patternsIn (items : List Value) : List String :=
  items.filterMap fun item => match item with | .text "" => none | .text s => some s | _ => none

/-- The patterns for files with rules. -/
def patterns (v : Option Value) : Outcome (List String) :=
  match v with
  | some (.list items) => .ok (patternsIn items)
  | some v => if v.isFilled then .error (.settings .includedRules) else .ok []
  | none => .ok []

/-! ### Files with rules -/

/-- The value of a document in one format, if it is one. -/
def readToml (text : String) : Outcome (Option Value) :=
  match Toml.read text with
  | .ok entries => .ok (some (.table entries))
  | .error (.numeral e) => .error (.numeral e)
  | .error .tooDeep => .error .tooDeep
  | .error _ => .ok none

/-- The value of a document in the other format, if it is one and is not null. -/
def readJson (text : String) : Outcome (Option Value) :=
  match Json.read text with
  | .ok .null => .ok none
  | .ok v => .ok (some v)
  | .error (.numeral e) => .error (.numeral e)
  | .error (.tooDeep table) => .error (.jsonTooDeep table)
  | .error .malformed => .ok none

/-- The value of a document; a name without a known ending may stand for either format. -/
def readDocument (suffix text : String) : Outcome (Option Value) := do
  if suffix == ".toml" then readToml text
  else if suffix == ".json" then readJson text
  else
    match ← readToml text with
    | some v => return some v
    | none => readJson text

/-- The list of rules in a document. -/
def listed? : Value → Option (List Value)
  | .list items => some items
  | .table entries =>
    match Keyed.get? "rules" entries <|> Keyed.get? "inline" entries with
    | some (.list items) => some items
    | _ => none
  | _ => none

/-- The rules that the tables among some items describe; bad ones are passed over. -/
def goodRules (path : Path) : List Value → Logged (List Rule)
  | [] => return []
  | .table raw :: rest => do
    match Rule.ofEntries raw with
    | .ok rule => return rule :: (← goodRules path rest)
    | .error (.settings e) =>
      record (.rulesSkipped path.text (.badRule e))
      goodRules path rest
    | .error e => throw e
  | _ :: rest => goodRules path rest

/-- The rules in a file, given what was read from it. -/
def ofFile (path : Path) (content : Except FileError String) : Logged (List Rule) := do
  let skip (reason : SkipReason) : Logged (List Rule) := do
    record (.rulesSkipped path.text reason)
    return []
  match content with
  | .error e => skip (.unreadable e)
  | .ok text =>
    match ← readDocument (Text.lower path.suffix) text with
    | none => skip .unparseable
    | some v =>
      match listed? v with
      | none => skip .noRules
      | some items => goodRules path items

/-- The rules in some files, in order. -/
def ofFiles : List (Path × Except FileError String) → Logged (List Rule)
  | [] => return []
  | (path, content) :: rest => do
    let rules ← ofFile path content
    return rules ++ (← ofFiles rest)

/-- The place of a pattern; one that is not absolute starts from a base. -/
def placed (base : Option Path) (pattern : String) : Path :=
  match base with
  | some b => b.join (.ofText pattern)
  | none => .ofText pattern

section
variable (expand : Path → Outcome (List Path)) (read : Path → Except FileError String)

/-- The files that some patterns name, pattern by pattern and each once, with what is read from
them. -/
def included (base : Option Path) (patterns : List String) :
    Outcome (List (Path × Except FileError String)) := do
  let found ← patterns.mapM fun p => expand (placed base p)
  return found.flatten.eraseDups.map fun path => (path, read path)

/-- The rules that a table describes, those given before those in files, where it is known which
files a pattern names and what is read from a file. -/
def ofEntriesWith (base : Option Path) (raw : Entries) : Logged (List Rule) := do
  let rules ← given (raw.get? "inline")
  let patterns ← patterns (raw.get? "include")
  return rules ++ (← ofFiles (← included expand read base patterns))

end

/-- The rules that a table describes. -/
def ofEntries (files : Files) (base : Option Path) (raw : Entries) : Logged (List Rule) :=
  ofEntriesWith files.expand files.read base raw

end PatchReview.RuleSet
