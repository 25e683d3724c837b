import PatchReview.Journal
import PatchReview.Json.Writer
import PatchReview.Text.Order

/-! Events as lines of text.

For people a line gives the time, the level and the name in columns and the fields in the
order of their names; for programs it is a JSON table. -/
namespace PatchReview.Event

variable [Text.StandIns]

/-- A text in a column of at least so many characters. -/
def inColumn (width : Nat) (s : String) : String :=
  s ++ String.ofList (List.replicate (width - s.length) ' ')

/-- The characters for which a text is put into quotes. -/
def separators : List Char := [' ', '\t', '=', '\r', '\n', '"', '\'']

/-- The value of a field in a line for people. -/
def plainField : Value → String
  | .text s => if s.toList.any separators.contains then Text.quoted s else s
  | v => v.literal

/-- The line about an event for people. -/
def line (time : String) (e : Event) : String :=
  let fields := e.fields.mergeSort fun a b => Text.inOrder a.1 b.1
  time ++ " [" ++ inColumn 9 e.level.name ++ "] " ++ inColumn 30 e.name ++ " " ++
    " ".intercalate (fields.map fun (name, v) => name ++ "=" ++ plainField v)

/-- The table about an event. -/
def entries (time : String) (e : Event) : Entries :=
  e.fields ++ [("event", .text e.name), ("timestamp", .text time), ("level", .text e.level.name)]

/-- One line, keys in their own order, characters beyond ASCII escaped. -/
def layout : Json.Layout := ⟨none, false, true⟩

/-- The line about an event for programs. -/
def jsonLine (time : String) (e : Event) : String :=
  match Json.write layout (.table (e.entries time)) with
  | .ok text => text
  | .error _ => ""

end PatchReview.Event
