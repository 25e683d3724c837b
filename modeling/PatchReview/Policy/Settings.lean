import PatchReview.Budget.Basic
import PatchReview.Text.Case

/-! What is published, as settings.

Settings can be taken from any table: numbers are read as integers, anything may stand for
yes or no, and limits may come as a table or as pairs, whose keys may be of any kind. -/
namespace PatchReview

variable [Text.StandIns]

structure PolicySettings where
  leastSeverity : String
  maxComments : Int
  redactSecrets : Bool
  consolidate : Bool
  maxPerFile : Int
  /-- The most findings of a severity, by its name in lower case. -/
  severityLimits : Keyed String Int
  deriving DecidableEq, Repr

namespace PolicySettings

def default : PolicySettings where
  leastSeverity := "info"
  maxComments := 50
  redactSecrets := true
  consolidate := false
  maxPerFile := 5
  severityLimits := []

/-- The table of the settings. -/
def entries (p : PolicySettings) : Entries :=
  [("min_severity_to_comment", .text p.leastSeverity), ("max_comments", .int p.maxComments),
    ("redact_secrets", .bool p.redactSecrets),
    ("consolidate_similar_findings", .bool p.consolidate),
    ("max_findings_per_file", .int p.maxPerFile),
    ("severity_limits", .table (p.severityLimits.map fun (name, n) => (name, .int n)))]

/-- A pair of values, from an item of a list. -/
def pairOf (index : Nat) : Value → Outcome (Value × Value)
  | .list [a, b] => .ok (a, b)
  | .list items => .error (.noPair index (some items.length))
  | .text s =>
    match s.toList with
    | [a, b] => .ok (.text (String.ofList [a]), .text (String.ofList [b]))
    | chars => .error (.noPair index (some chars.length))
  | .table [(a, _), (b, _)] => .ok (.text a, .text b)
  | .table entries => .error (.noPair index (some entries.length))
  | _ => .error (.noPair index none)

/-- What distinguishes one key from another: numbers are one key if they are equal, and yes
and no count as one and zero. -/
inductive Key where
  | null
  | integer (i : Int)
  | fraction (x : Binary64)
  | text (s : String)
  | moment (m : Moment)
  deriving DecidableEq, Repr

/-- The key of a number: an integer if it is one. -/
def Key.ofNumber (x : Binary64) : Key :=
  match x.truncate? with
  | some i => if Binary64.ofInt i == x || i == 0 && x.isZero then .integer i else .fraction x
  | none => .fraction x

/-- The key that a value is; lists and tables cannot be keys. -/
def Key.ofValue : Value → Outcome Key
  | .null => .ok .null
  | .bool b => .ok (.integer (if b then 1 else 0))
  | .int i => .ok (.integer i)
  | .float x => .ok (.ofNumber x)
  | .text s => .ok (.text s)
  | .moment m => .ok (.moment m)
  | v => .error (.noKey v.kindName)

/-- The table with one more pair: a key that is there already keeps its first form. -/
def putPair (key : Key) (form v : Value) (table : Keyed Key (Value × Value)) :
    Keyed Key (Value × Value) :=
  table.alter key fun old => (old.elim form (·.1), v)

/-- The table of the pairs of a list, numbered from `index` on. -/
def putPairs (index : Nat) (table : Keyed Key (Value × Value)) :
    List Value → Outcome (Keyed Key (Value × Value))
  | [] => .ok table
  | item :: rest => do
    let (form, v) ← pairOf index item
    putPairs (index + 1) (putPair (← Key.ofValue form) form v table) rest

/-- The keys and values of what a value lists in pairs. -/
def pairsOf (items : List Value) : Outcome (List (Value × Value)) :=
  (putPairs 0 [] items).map fun table => table.map (·.2)

/-- The keys and values of the table that a value stands for; what does not count as given is
an empty one. -/
def tableOf (v : Value) : Outcome (List (Value × Value)) :=
  match v with
  | .table entries => .ok (entries.map fun (key, v) => (.text key, v))
  | .list items => pairsOf items
  | .text s => pairsOf (s.toList.map fun c => .text (String.ofList [c]))
  | v => if v.isFilled then .error (.noItems v.kindName) else .ok []

/-- Limits by severity, the last one of a severity that comes twice. -/
def limitsOf (pairs : List (Value × Value)) : Outcome (Keyed String Int) := do
  let limits ← pairs.mapM fun (key, v) => do return (Text.lower (← key.plainText), ← v.toInteger)
  return Keyed.ofList limits

/-- The settings that a table describes. -/
def ofEntries (raw : Entries) : Outcome PolicySettings := do
  let integer (name : String) (fallback : Int) : Outcome Int :=
    ((raw.get? name).getD (.int fallback)).toInteger
  let truth (name : String) (fallback : Bool) : Bool :=
    ((raw.get? name).getD (.bool fallback)).isFilled
  let severity ← ((raw.get? "min_severity_to_comment").getD (.text default.leastSeverity)).plainText
  let maxComments ← integer "max_comments" default.maxComments
  let maxPerFile ← integer "max_findings_per_file" default.maxPerFile
  let limits ← limitsOf (← tableOf ((raw.get? "severity_limits").getD .null))
  return {
    leastSeverity := Text.lower severity
    maxComments := maxComments
    redactSecrets := truth "redact_secrets" default.redactSecrets
    consolidate := truth "consolidate_similar_findings" default.consolidate
    maxPerFile := maxPerFile
    severityLimits := limits }

end PolicySettings

end PatchReview
