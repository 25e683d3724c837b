import PatchReview.Digest.Sha1
import PatchReview.Policy.Consolidation
import PatchReview.Policy.Redaction
import PatchReview.Policy.Settings

/-! Which findings are published.

Findings are consolidated if that is asked for. Then each has to find room in the quotas of
its file and of its severity; a finding that does takes it up, whether or not it is published
in the end. Of those the ones of low severity and repetitions are dropped, and the first ones
are published up to the limit on all, with a fingerprint and without secrets.

A finding that has to be told apart from others needs a digest, which it has unless UTF-8
cannot hold what identifies it or a line number is too long to be written; `select` is the
selection where all that matter have one, and `selection` fails where one has not. -/
namespace PatchReview

variable [Text.StandIns]

/-- The severities in increasing order. -/
def severities : List String := ["info", "minor", "major", "critical"]

/-- The place of a severity in the order; one that is not known ranks lowest. -/
def severityRank (severity : String) : Nat := (severities.idxOf? (Text.lower severity)).getD 0

namespace FindingOf
variable {ν : Type} [LineMark ν]

/-- What identifies a finding. -/
def identity (f : FindingOf ν) : String :=
  "|".intercalate [f.file, f.startText, f.endText, f.ruleId, f.content]

/-- The digest of what identifies a finding. -/
def digest (f : FindingOf ν) : String :=
  Digest.hex (Digest.Sha1.digest (Text.Utf8.encode f.identity.toList))

/-- Why a finding has no digest, if it has none. -/
def digestFault? (f : FindingOf ν) : Option Failure :=
  if (LineMark.value f.startLine).isWritable && (LineMark.value f.endLine).isWritable then
    (Text.Utf8.encodeError? f.identity.toList).map .notEncodable
  else some (.numeral .unwritable)

/-- The digest of what identifies a finding, or why it has none. -/
def fingerprinted (f : FindingOf ν) : Outcome String :=
  match f.digestFault? with
  | some e => .error e
  | none => .ok f.digest

end FindingOf

namespace PolicySettings
variable {ν : Type} [LineMark ν]

/-- How many findings of a severity without a limit there may be. -/
def unlimited : Int := 999

/-- How much of each quota is taken up. -/
structure Usage where
  files : Keyed String Nat
  severities : Keyed String Nat

/-- How often a key has been counted. -/
def countOf (key : String) (counts : Keyed String Nat) : Nat := (counts.get? key).getD 0

/-- Counts a key once more. -/
def countUp (key : String) (counts : Keyed String Nat) : Keyed String Nat :=
  counts.alter key fun old => old.getD 0 + 1

/-- Whether the quotas have room for a finding. -/
def hasRoom (p : PolicySettings) (usage : Usage) (f : FindingOf ν) : Bool :=
  let severity := Text.lower f.severity
  countOf f.file usage.files < p.maxPerFile &&
    countOf severity usage.severities < (p.severityLimits.get? severity).getD unlimited

/-- The findings that find room. -/
def withinQuotas (p : PolicySettings) (usage : Usage) : List (FindingOf ν) → List (FindingOf ν)
  | [] => []
  | f :: rest =>
    if p.hasRoom usage f then
      let usage := ⟨countUp f.file usage.files, countUp (Text.lower f.severity) usage.severities⟩
      f :: withinQuotas p usage rest
    else withinQuotas p usage rest

/-- A finding as it is published. -/
def published (p : PolicySettings) (f : FindingOf ν) : FindingOf ν :=
  { f with
    content := if p.redactSecrets then Redaction.redact f.content else f.content
    fingerprint := some f.digest }

/-- Whether a finding is severe enough to be published. -/
def isSevere (p : PolicySettings) (f : FindingOf ν) : Bool :=
  severityRank p.leastSeverity ≤ severityRank f.severity

/-- The first findings, `room` at most, that are severe enough and not among the ones seen. -/
def publish (p : PolicySettings) : Nat → List String → List (FindingOf ν) → List (FindingOf ν)
  | 0, _, _ => []
  | _, _, [] => []
  | room + 1, seen, f :: rest =>
    if !p.isSevere f || seen.contains f.digest then
      publish p (room + 1) seen rest
    else published p f :: publish p room (f.digest :: seen) rest

/-- The findings after consolidation, if that is asked for. -/
def consolidated (p : PolicySettings) (findings : List (FindingOf ν)) : List (FindingOf ν) :=
  if p.consolidate then Consolidation.consolidate findings else findings

/-- The findings that are published. -/
def select (p : PolicySettings) (findings : List (FindingOf ν)) : List (FindingOf ν) :=
  p.publish p.maxComments.toNat [] (p.withinQuotas ⟨[], []⟩ (p.consolidated findings))

/-- The first of some findings that has no digest, if it comes before `room` others are
published. -/
def publishFault? (p : PolicySettings) (room : Nat) (findings : List (FindingOf ν)) :
    Option Failure :=
  let severe := findings.filter p.isSevere
  severe.zipIdx.findSome? fun (f, i) => do
    let e ← f.digestFault?
    if (p.publish room [] (severe.take i)).length < room then some e else none

/-- The findings that are published, unless one of them cannot be told apart from others. -/
def selection (p : PolicySettings) (findings : List (FindingOf ν)) : Outcome (List (FindingOf ν)) :=
  match if p.consolidate then Consolidation.fault? findings else none with
  | some e => .error e
  | none =>
    match p.publishFault? p.maxComments.toNat
        (p.withinQuotas ⟨[], []⟩ (p.consolidated findings)) with
    | some e => .error e
    | none => .ok (p.select findings)

end PolicySettings

end PatchReview
