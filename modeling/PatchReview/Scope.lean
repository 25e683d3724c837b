import PatchReview.Files.Basic

/-! Temporary files that are gone when their scope ends.

A scope keeps track of the files that were made in it, by their names. Closing it removes those
it tracks; it is closed whenever the work inside ends, be it done or broken off, and what broke
the work off is handed on. A file may be deleted by others in the meantime. A file is tracked as
soon as it is made, before anything is written into it, and it stays empty if UTF-8 cannot hold
what is to be written.

Names are given from outside (`Naming`), and no scope is given one twice. -/
namespace PatchReview

namespace Naming

/-- The directory of temporary files. -/
def directory : String := "/tmp/"

/-- A number in seven digits at least. -/
def numeral (n : Nat) : String :=
  let digits := Nat.toDigits 10 n
  String.ofList (List.replicate (7 - digits.length) '0' ++ digits)

theorem ofDigitChars_numeral (n : Nat) : Nat.ofDigitChars 10 (numeral n).toList 0 = n := by
  rw [numeral, String.toList_ofList, Nat.ofDigitChars_append, Nat.ofDigitChars_replicate_zero,
    Nat.mul_zero, Nat.ofDigitChars_toDigits (by decide) (by decide)]

theorem ne_of_mem_numeral {n : Nat} {c : Char} (h : c ∈ (numeral n).toList) : c ≠ '_' := by
  have hdigit : c.isDigit = true := by
    rw [numeral, String.toList_ofList, List.mem_append] at h
    rcases h with hzero | hdigits
    · rw [(List.mem_replicate.1 hzero).2]
      decide
    · exact Nat.isDigit_of_mem_toDigits (by decide) (by decide) hdigits
  rintro rfl
  exact absurd hdigit (by decide)

/-- The name of the file of a number. -/
def numberedName (number : Nat) (beginning ending : String) : String :=
  directory ++ beginning ++ numeral number ++ "_" ++ ending

theorem takeWhile_numeral (n : Nat) (ending : String) :
    ((numeral n).toList ++ '_' :: ending.toList).takeWhile (· != '_') = (numeral n).toList := by
  rw [List.takeWhile_append_of_pos fun c hc => bne_iff_ne.2 (ne_of_mem_numeral hc),
    List.takeWhile_cons_of_neg (by simp), List.append_nil]

theorem eq_of_numberedName {i j : Nat} {beginning ending ending' : String}
    (h : numberedName i beginning ending = numberedName j beginning ending') : i = j := by
  have hchars := congrArg String.toList h
  simp only [numberedName, String.toList_append, List.append_assoc, List.append_cancel_left_eq,
    show "_".toList = ['_'] from rfl, List.singleton_append] at hchars
  have hnumeral := congrArg (List.takeWhile (· != '_')) hchars
  rw [takeWhile_numeral, takeWhile_numeral] at hnumeral
  rw [← ofDigitChars_numeral i, ← ofDigitChars_numeral j, hnumeral]

end Naming

variable [Text.StandIns]

structure TemporaryFile where
  name : String
  bytes : List UInt8
  /-- Whether the file has not been deleted yet. -/
  isThere : Bool
  deriving DecidableEq, Repr

/-- How new files are named. -/
structure Naming where
  /-- The name of the file that is asked for by a beginning and an ending, as the first, the second
  and so on that a scope asks for, or why there is none. -/
  name (number : Nat) (beginning ending : String) : Outcome String
  fresh {i j : Nat} {beginning ending ending' name' : String}
    (hi : name i beginning ending = .ok name') (hj : name j beginning ending' = .ok name') : i = j

structure Scope where
  /-- What names of files start with. -/
  beginning : String
  /-- How many files were asked for. -/
  asked : Nat
  /-- All files that were ever made. -/
  files : List TemporaryFile
  /-- The names of the files to remove. -/
  tracked : List String
  deriving DecidableEq, Repr

/-- What happens inside a scope. -/
inductive ScopeStep where
  /-- A file is asked for; if there is none, the work may cope with that. -/
  | write (content ending : String) (copes : Bool)
  /-- Someone else deletes a file. -/
  | delete (name : String)
  | close
  /-- The work is broken off. -/
  | breakOff (e : Failure)
  deriving DecidableEq, Repr

namespace Naming

/-- Files are numbered, if there can be files of such names. -/
def numbered : Naming where
  name number beginning ending :=
    let name := numberedName number beginning ending
    match Files.pathFault? name with
    | some e => .error (.file e)
    | none => .ok name
  fresh hi hj := by
    have key {number : Nat} {beginning ending name : String}
        (h : (match Files.pathFault? (numberedName number beginning ending) with
          | some e => (.error (.file e) : Outcome String)
          | none => .ok (numberedName number beginning ending)) = .ok name) :
        numberedName number beginning ending = name := by
      split at h
      · exact absurd h (by simp)
      · exact Except.ok.inj h
    exact eq_of_numberedName ((key hi).trans (key hj).symm)

end Naming

namespace Scope

def defaultBeginning : String := "diff-review-"

def defaultEnding : String := ".diff"

def opened (beginning : String) : Scope := ⟨beginning, 0, [], []⟩

/-- The scope with a new file, which it tracks. -/
def withFile (s : Scope) (name : String) (bytes : List UInt8) : Scope where
  beginning := s.beginning
  asked := s.asked + 1
  files := s.files ++ [⟨name, bytes, true⟩]
  tracked := s.tracked ++ [name]

/-- Asks for a file and writes into it: the scope then, and the name of the file. -/
def write (naming : Naming) (s : Scope) (content ending : String) : Scope × Outcome String :=
  match naming.name s.asked s.beginning ending with
  | .error e => ({ s with asked := s.asked + 1 }, .error e)
  | .ok name =>
    match Text.Utf8.encodeError? content.toList with
    | some e => (s.withFile name [], .error (.notEncodable e))
    | none => (s.withFile name (Text.Utf8.encode content.toList), .ok name)

/-- The text of a file, if it is there. -/
def read? (s : Scope) (name : String) : Option String :=
  (s.files.find? fun f => f.name == name && f.isThere).map fun f => Files.lenientText f.bytes

/-- The scope without a file, if it is there. -/
def delete (s : Scope) (name : String) : Scope :=
  { s with files := s.files.map fun f => if f.name = name then { f with isThere := false } else f }

/-- Removes the tracked files, the last one first, until none is tracked. -/
def close (s : Scope) : Scope :=
  match _h : s.tracked.getLast? with
  | none => s
  | some name => close { s.delete name with tracked := s.tracked.dropLast }
termination_by s.tracked.length
decreasing_by
  have : s.tracked ≠ [] := fun e => by simp [e] at _h
  have := List.length_pos_iff.2 this
  simp only [List.length_dropLast]
  omega

/-- The scope after a step, and what breaks the work off, if anything does. -/
def step (naming : Naming) (s : Scope) : ScopeStep → Scope × Option Failure
  | .write content ending copes =>
    match s.write naming content ending with
    | (t, .error e) => (t, if copes then none else some e)
    | (t, .ok _) => (t, none)
  | .delete name => (s.delete name, none)
  | .close => (s.close, none)
  | .breakOff e => (s, some e)

/-- The scope after some steps, of which those behind a failure are not done, and the failure. -/
def after (naming : Naming) (s : Scope) : List ScopeStep → Scope × Option Failure
  | [] => (s, none)
  | a :: rest =>
    match s.step naming a with
    | (t, some e) => (t, some e)
    | (t, none) => t.after naming rest

/-- The scope when it has been left, and what broke the work off. -/
def run (naming : Naming) (s : Scope) (work : List ScopeStep) : Scope × Option Failure :=
  let (t, e) := s.after naming work
  (t.close, e)

end Scope

end PatchReview
