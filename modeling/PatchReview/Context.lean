import PatchReview.Text.Case
import PatchReview.Text.Scan
import PatchReview.Text.Word

/-! What kind of code a change touches.

A text is looked through in lower case for the signs of each kind in turn, and the first
kind with a sign in the text is the one. -/
namespace PatchReview

open Text

inductive CodeContext where
  | classDefinition
  | method
  | assignment
  | controlFlow
  | imports
  | documentation
  | general
  deriving DecidableEq, Repr

namespace CodeContext

def name : CodeContext → String
  | classDefinition => "class_definition"
  | method => "method"
  | assignment => "variable_assignment"
  | controlFlow => "control_flow"
  | imports => "imports_namespace"
  | documentation => "documentation"
  | general => "general"

/-- Whether a test holds at some place of a text. -/
def somewhere (test : List Char → Bool) (s : List Char) : Bool :=
  (findSuffix? (fun t => if test t then some () else none) s).isSome

/-- Behind one of some words and at least one blank. -/
def afterWord? (words : List String) (s : List Char) : Option (List Char) :=
  (afterAny? words s).bind afterBlanks?

def startsClass (s : List Char) : Bool :=
  match afterWord? ["class"] s with
  | some (c :: _) => isWord c
  | _ => false

def startsMethod (s : List Char) : Bool :=
  match afterWord? ["public", "private", "protected"] s with
  | some rest => startsWith "function".toList rest
  | none => false

def startsAssignment (s : List Char) : Bool :=
  match s with
  | '$' :: c :: rest => isWord c && startsWith ['='] (trimStart (rest.dropWhile isWord))
  | _ => false

def startsControl (s : List Char) : Bool :=
  match afterAny? ["if", "while", "for"] s with
  | some rest => startsWith ['('] (trimStart rest)
  | none => false

def startsImport (s : List Char) : Bool := (afterWord? ["namespace", "use"] s).isSome

def startsComment (s : List Char) : Bool := (afterAny? ["/*", "*/", "//"] s).isSome

/-- The kinds with their signs, in the order in which they are looked for. -/
def signs : List (CodeContext × (List Char → Bool)) := [
  (classDefinition, startsClass), (method, startsMethod), (assignment, startsAssignment),
  (controlFlow, startsControl), (imports, startsImport), (documentation, startsComment)]

/-- The kind of code in a text. -/
def detect (text : String) : CodeContext :=
  let s := (lower text).toList
  ((signs.find? fun (_, test) => somewhere test s).map (·.1)).getD general

end CodeContext

end PatchReview
