import PatchReview.Digest.Md5
import PatchReview.Finding
import PatchReview.Keyed
import PatchReview.Text.Utf8

/-! Putting similar findings together.

Findings are similar if they share rule, severity and the start of the title. Similar
findings become one, in the place of the first, that says in how many places it was found
and in which files; a finding that is like no other stays as it is. Findings whose shared
text UTF-8 cannot hold are not compared (`fault?`). -/
namespace PatchReview.Consolidation

variable [Text.StandIns] {ν : Type}

/-- How much of a title counts. -/
def titleLength : Nat := 20

/-- How many files are named before the rest is only counted. -/
def namedFiles : Nat := 3

/-- The text that similar findings share. -/
def signatureText (f : FindingOf ν) : String :=
  "|".intercalate [f.ruleId, f.severity, String.ofList (f.title.toList.take titleLength)]

/-- The digest of what similar findings share. -/
def signature (f : FindingOf ν) : String :=
  Digest.hex (Digest.Md5.digest (Text.Utf8.encode (signatureText f).toList))

/-- Why findings cannot be compared: the first that has no digest of what it shares. -/
def fault? (findings : List (FindingOf ν)) : Option Failure :=
  (findings.findSome? fun f => Text.Utf8.encodeError? (signatureText f).toList).map .notEncodable

/-- Findings by signature, in order. -/
def groups (findings : List (FindingOf ν)) : Keyed String (List (FindingOf ν)) :=
  findings.foldl (fun groups f => groups.alter (signature f) fun old => old.getD [] ++ [f]) []

/-- The files of some findings: the first three by name, and how many more there are. -/
def filesText (files : List String) : String :=
  let more := files.length - namedFiles
  ", ".intercalate (files.take namedFiles) ++ (if more = 0 then "" else s!" +{more} more")

/-- One finding for several similar ones. -/
def aggregate (first : FindingOf ν) (members : List (FindingOf ν)) : FindingOf ν :=
  { first with
    title := "Aggregated: " ++ first.title
    file := filesText (members.map (·.file)).eraseDups
    rationale := s!"Found in {members.length} locations"
    occurrences := some (.int members.length) }

/-- What a group of similar findings comes to. -/
def merge : List (FindingOf ν) → List (FindingOf ν)
  | [] => []
  | [f] => [f]
  | first :: rest => [aggregate first (first :: rest)]

/-- Similar findings put together. -/
def consolidate (findings : List (FindingOf ν)) : List (FindingOf ν) :=
  (groups findings).flatMap fun (_, members) => merge members

/-- Similar findings put together, unless one of them cannot be compared with others. -/
def consolidation (findings : List (FindingOf ν)) : Outcome (List (FindingOf ν)) :=
  match fault? findings with
  | some e => .error e
  | none => .ok (consolidate findings)

end PatchReview.Consolidation
