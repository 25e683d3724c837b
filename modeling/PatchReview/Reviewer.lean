import PatchReview.Finding
import PatchReview.Prompt
import PatchReview.Reply
import PatchReview.Text.Order

/-! Who reviews the chunks.

A reviewer has a name and makes findings of chunks, or fails. The built-in one needs no
model: it hands out findings it was given, or one note about the first chunk. A reviewer
with a model asks it once about all chunks and reads the findings out of the reply; without
chunks it asks nothing. Reviewers are registered by name, without blanks around and in lower
case. -/
namespace PatchReview

variable [Text.StandIns]

structure Reviewer where
  name : String
  review : List Chunk → Outcome (List Finding)

/-- The findings that the items of a value describe. -/
def Finding.listOf (v : Value) : Outcome (List Finding) := do (← v.items).mapM Finding.ofValue

/-- The findings that a reply describes. -/
def Finding.ofReply (reply : String) : Outcome (List Finding) := do
  (← Reply.findings reply).mapM Finding.ofEntries

namespace Reviewer

/-- A note that points to a chunk. -/
def note (c : Chunk) : Finding where
  ruleId := "AI.MOCK.CHECK"
  title := "Mock AI Finding"
  severity := "info"
  file := c.file
  startLine := c.line
  endLine := c.line
  rationale := "Mock provider used for tests."
  suggestion := "Consider addressing this mock suggestion."
  content := ""
  fingerprint := none
  occurrences := none

/-- The built-in reviewer: without findings of its own it notes the first chunk. -/
def builtIn (responses : Option (List Value)) : Reviewer where
  name := "mock"
  review := fun chunks =>
    match responses with
    | some items => items.mapM Finding.ofValue
    | none => .ok ((chunks.head?.map note).toList)

/-- The built-in reviewer with the findings that the items of a value describe, unless it is
null. -/
def ofResponses : Value → Outcome Reviewer
  | .null => .ok (builtIn none)
  | v => do return builtIn (some (← v.items))

/-- A reviewer with a model. Prompts that cannot be used come to light when something is
asked. -/
def ofModel (name : String) (prompts : Outcome (Option Prompts))
    (model : Messages → Outcome String) : Reviewer where
  name := name
  review := fun chunks => do
    if chunks.isEmpty then return []
    if let some e := Messages.fault? chunks then throw e
    Finding.ofReply (← model (Messages.about (← prompts) chunks))

/-- A reviewer that always gives up. -/
def failing (name message : String) : Reviewer where
  name := name
  review := fun _ => .error (.reviewer message)

/-- A reviewer whose findings are described by the items of a value, whatever the chunks. -/
def fixed (name : String) (items : Value) : Reviewer where
  name := name
  review := fun _ => Finding.listOf items

end Reviewer

/-- Reviewers by name. -/
abbrev Registry := Keyed String Reviewer

namespace Registry

/-- A name as it is registered. -/
def nameOf (name : String) : String := Text.lower (Text.trimmed name)

def register (r : Registry) (name : String) (reviewer : Reviewer) : Registry :=
  r.put (nameOf name) reviewer

/-- The registered names, in order. -/
def names (r : Registry) : List String := r.keys.mergeSort Text.inOrder

/-- The reviewer of a name. -/
def find (r : Registry) (name : String) : Except SettingsError Reviewer :=
  match r.get? (nameOf name) with
  | some reviewer => .ok reviewer
  | none => .error (.unknownReviewer (nameOf name) r.names)

/-- The registry with the built-in reviewer alone. -/
def builtIn : Registry := register [] "mock" (.builtIn none)

/-- The reviewer given, or else the one of a name, or of the settings if the name is empty. -/
def choose (r : Registry) (given : Option Reviewer) (name : Option String) (configured : String) :
    Except SettingsError Reviewer :=
  match given with
  | some reviewer => .ok reviewer
  | none => r.find (match name with | some "" | none => configured | some name => name)

end Registry

end PatchReview
