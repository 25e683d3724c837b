import PatchReview.Glob.Step
import PatchReview.Text.StandIn

/-! Patterns for names of files.

A star takes any text, a question mark any character, and a set in brackets one of its
characters, or behind `!` one that it does not have. A bracket that is never closed is a
character. In a set a hyphen between two characters makes a range; a range the wrong way
round counts as not written, so that a `!` behind it negates. -/
namespace PatchReview.Glob.Name

open Text (StandIns)
open Text.Surrogate (code)

variable [StandIns]

/-- What a set consists of. -/
inductive Item where
  | char (c : Char)
  | range (low high : Char)
  deriving DecidableEq, Repr

def Item.takes (c : Char) : Item → Bool
  | char d => c == d
  | range low high => code low ≤ code c && code c ≤ code high

inductive Part where
  | any
  | one
  | set (negated : Bool) (items : List Item)
  | char (c : Char)
  deriving DecidableEq, Repr

/-- The items of a set, by its characters. -/
def items : List Char → List Item
  | [] => []
  | low :: '-' :: high :: s => .range low high :: items s
  | c :: s => .char c :: items s

/-- Whether an item counts as written. -/
def Item.counts : Item → Bool
  | char _ => true
  | range low high => code low ≤ code high

/-- The set that is written behind an opening bracket, or behind its mark of negation. -/
def setOf (negated : Bool) (body : List Char) : Part :=
  match negated, (items body).filter (·.counts) with
  | false, .char '!' :: rest => .set true rest
  | false, .range '!' high :: rest => .set true (.char '-' :: .char high :: rest)
  | negated, items => .set negated items

/-- A set behind its opening bracket, and what follows it. -/
def cutSet (s : List Char) : Option (Part × List Char) :=
  match s with
  | '!' :: s => (cutBody s).map fun (body, rest) => (setOf true body, rest)
  | s => (cutBody s).map fun (body, rest) => (setOf false body, rest)

theorem length_of_cutSet {s rest : List Char} {part : Part} (h : cutSet s = some (part, rest)) :
    rest.length < s.length := by
  unfold cutSet at h
  split at h <;> obtain ⟨⟨body, r⟩, hb, he⟩ := Option.map_eq_some_iff.1 h <;>
    obtain ⟨_, rfl⟩ := Prod.mk.injEq .. ▸ he <;> have := length_of_cutBody hb
  · exact Nat.lt_succ_of_lt this
  · exact this

/-- The parts of a pattern. -/
def parts : List Char → List Part
  | [] => []
  | '*' :: s => .any :: parts s
  | '?' :: s => .one :: parts s
  | '[' :: s =>
    match _h : cutSet s with
    | some (part, rest) => part :: parts rest
    | none => .char '[' :: parts s
  | c :: s => .char c :: parts s
termination_by s => s.length
decreasing_by
  all_goals simp only [List.length_cons]
  all_goals try omega
  have := length_of_cutSet _h
  omega

/-- What a part takes. -/
def Part.step : Part → Step
  | any => .many fun _ => true
  | one => .one fun _ => true
  | set negated items => .one fun c => items.any (·.takes c) != negated
  | char d => .one (· == d)

/-- Whether a pattern takes a name. -/
def accepts (pattern name : String) : Bool :=
  Step.accepts List.isEmpty ((parts pattern.toList).map Part.step) name.toList

end PatchReview.Glob.Name
