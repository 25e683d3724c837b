import PatchReview.Chunk
import PatchReview.Text.Blank

/-! What a language model is asked.

The question lists the chunks, each below a line with its file. Texts from the settings can
be added to the instructions and to the question, each set off by an empty line; blank texts
do not count. -/
namespace PatchReview

/-- Texts that are added to a prompt. -/
structure Prompts where
  toSystem : List String
  toUser : List String
  extra : List String
  deriving DecidableEq, Repr

/-- What a model is told: its instructions and the question. -/
structure Messages where
  system : String
  user : String
  deriving DecidableEq, Repr

namespace Prompts

def none : Prompts := ⟨[], [], []⟩

/-- The texts among some items. -/
def textsAmong (items : List Value) : List String :=
  items.filterMap fun v => match v with | .text s => some s | _ => Option.none

/-- The texts that a value holds. -/
def textsOf : Option Value → List String
  | some (.text s) => [s]
  | some (.list items) => textsAmong items
  | _ => []

/-- The names of the fields. -/
def systemField : String := "system_append"

def userField : String := "user_append"

def extraField : String := "extra"

def fieldNames : List String := [systemField, userField, extraField]

/-- The texts in a table; what else is in it does not matter. -/
def ofEntries (raw : Entries) : Prompts where
  toSystem := textsOf (raw.get? systemField)
  toUser := textsOf (raw.get? userField)
  extra := textsOf (raw.get? extraField)

/-- The texts in a value, which has to be a table or null. -/
def ofValue : Value → Outcome (Option Prompts)
  | .null => .ok Option.none
  | .table raw => .ok (some (ofEntries raw))
  | v => .error (.noFields v.kindName)

/-- The texts in a table that has no other fields, each with the items it consists of. -/
def ofFields (raw : Entries) : Outcome Prompts := do
  let itemsOf (name : String) : Outcome (List String) :=
    match raw.get? name with
    | some v => v.items.map textsAmong
    | Option.none => .ok []
  match raw.find? fun (name, _) => !fieldNames.contains name with
  | some (name, _) => throw (.unknownPrompt name)
  | Option.none => return ⟨← itemsOf systemField, ← itemsOf userField, ← itemsOf extraField⟩

/-- The texts that count, without blanks around. -/
def counted (items : List String) : List String := (items.map Text.trimmed).filter (!·.isEmpty)

/-- Texts with an empty line between neighbours. -/
def paragraphs (items : List String) : String := "\n\n".intercalate items

/-- Messages with the texts added. -/
def addTo (p : Prompts) (m : Messages) : Messages :=
  let system := counted p.toSystem
  let parts := [Text.trimmedEnd m.user, paragraphs (counted p.toUser), paragraphs (counted p.extra)]
  { system :=
      if system.isEmpty then m.system else Text.trimmedEnd m.system ++ "\n\n" ++ paragraphs system
    user := paragraphs (parts.filter (!Text.isBlankText ·)) }

end Prompts

namespace Messages

def systemPrompt : String :=
  "You are a strict assistant that outputs ONLY valid JSON following the requested schema."

/-- The lines in front of the chunks. -/
def header : List String := [
  "You are an AI Code Review bot. Analyze the following UNIFIED DIFFS per file, " ++
    "considering both added/modified lines (+) and deleted lines (-).",
  "Focus your reasoning primarily on the resulting code state, but consider deletions " ++
    "for potential regressions, removed validations, or security checks.",
  "Return a JSON object with key \"findings\" which is an array of objects with keys:",
  "rule_id, title, severity, file, start_line, end_line, rationale, suggestion, content",
  "If no issues, return \x7b\"findings\":[]\x7d. Do not include commentary.",
  ""]

/-- Why nothing can be asked about some chunks: the number of a line is too long to be written. -/
def fault? (chunks : List Chunk) : Option Failure :=
  if chunks.all (Text.isWritable ·.line) then Option.none else some (.numeral .unwritable)

/-- The lines of a chunk. -/
def chunkLines (c : Chunk) : List String :=
  [s!"FILE: {c.file} (~{c.line})", "---", c.diff, ""]

/-- The question about some chunks. -/
def question (chunks : List Chunk) : String :=
  "\n".intercalate (header ++ chunks.flatMap chunkLines)

/-- What a model is told about some chunks. -/
def about (prompts : Option Prompts) (chunks : List Chunk) : Messages :=
  let plain : Messages := ⟨systemPrompt, question chunks⟩
  match prompts with
  | some p => p.addTo plain
  | none => plain

end Messages

end PatchReview
