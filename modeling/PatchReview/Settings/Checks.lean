import PatchReview.Failure
import PatchReview.Text.Case
import PatchReview.Text.Order
import PatchReview.Value

/-! What a field of the settings may hold.

Each check is given the name of the field, for its complaint. A field without a value is an
empty table or list where one of these is asked for. -/
namespace PatchReview.Settings

variable [Text.StandIns]

/-- Settings are refused, for a reason. -/
def refuse {α : Type} (e : SettingsError) : Outcome α := .error (.settings e)

def checkTable (field : String) : Option Value → Outcome Entries
  | none | some .null => .ok []
  | some (.table entries) => .ok entries
  | some _ => refuse (.notTable field)

def text? : Value → Option String
  | .text s => some s
  | _ => none

def table? : Value → Option Entries
  | .table entries => some entries
  | _ => none

/-- A list of items that are all of one kind. -/
def checkItems {α : Type} (item? : Value → Option α) (e : SettingsError) :
    Option Value → Outcome (List α)
  | none | some .null => .ok []
  | some (.list items) =>
    match items.mapM item? with
    | some items => .ok items
    | none => refuse e
  | some _ => refuse e

def checkTexts (field : String) : Option Value → Outcome (List String) :=
  checkItems text? (.notTexts field)

def checkTables (field : String) : Option Value → Outcome (List Entries) :=
  checkItems table? (.notTables field)

/-- A list of texts, or a text alone, which does not count if it is blank. -/
def checkTextOrTexts (field : String) : Option Value → Outcome (List String)
  | some (.text s) => .ok (if Text.isBlankText s then [] else [s])
  | v => checkTexts field v

/-- One of some choices, by its name; capitals make no difference. -/
def checkChoice {α : Type} (field : String) (choices : List α) (name : α → String) (v : Value) :
    Outcome α := do
  let text ← v.plainText
  match choices.find? fun a => name a == Text.lower text with
  | some a => return a
  | none => refuse (.notChoice field ((choices.map name).mergeSort Text.inOrder))

def checkInteger (field : String) : Value → Outcome Int
  | .int i => .ok i
  | _ => refuse (.notInteger field)

def checkPositive (field : String) (v : Value) : Outcome { n : Nat // 0 < n } := do
  let i ← checkInteger field v
  if h : 0 < i then return ⟨i.toNat, by omega⟩ else refuse (.notPositive field)

def checkBoolean (field : String) : Value → Outcome Bool
  | .bool b => .ok b
  | _ => refuse (.notBoolean field)

end PatchReview.Settings
