import PatchReview.Budget.Basic
import PatchReview.Text.Lines

/-! Making a block smaller without losing changes.

Blank lines go and inline comments of added lines shrink to a stub. Then lines are kept as
long as their estimates add up to no more than the tokens that are left; a marker stands for
the rest. -/
namespace PatchReview.Budget

open Text

/-- What is behind the first end of a comment. -/
def behindComment? : List Char → Option (List Char)
  | '*' :: '/' :: s => some s
  | _ :: s => behindComment? s
  | [] => none

theorem length_of_behindComment {s rest : List Char} (h : behindComment? s = some rest) :
    rest.length < s.length := by
  fun_induction behindComment? s with
  | case1 s =>
    obtain rfl := Option.some.inj h
    simp only [List.length_cons]
    omega
  | case2 _ _ _ ih => exact Nat.lt_succ_of_lt (ih h)
  | case3 => simp at h

/-- What an inline comment shrinks to. -/
def commentStub : List Char := "/* ... */".toList

/-- A line with its inline comments shrunk. -/
def shrinkComments : List Char → List Char
  | '/' :: '*' :: s =>
    match _h : behindComment? s with
    | some rest => commentStub ++ shrinkComments rest
    | none => '/' :: shrinkComments ('*' :: s)
  | c :: s => c :: shrinkComments s
  | [] => []
termination_by s => s.length
decreasing_by
  · have := length_of_behindComment _h
    simp only [List.length_cons]
    omega
  · simp
  · simp

/-- An added line with its inline comments shrunk; any other line as it is. -/
def shrinkLine (line : List Char) : List Char :=
  match line with
  | '+' :: _ => shrinkComments line
  | _ => line

/-- What stands for the lines that are left out. -/
def compressionMarker : List Char := "... [content truncated for token budget] ...".toList

/-- The lines that add up to at most `left` tokens, and whether that leaves some out. -/
def affordable (b : Budget) : Int → List (List Char) → List (List Char) × Bool
  | _, [] => ([], false)
  | left, line :: rest =>
    let tokens := b.estimate (String.ofList line)
    if left < tokens then ([], true)
    else
      let (kept, cut) := affordable b (left - tokens) rest
      (line :: kept, cut)

/-- The lines that compression works on. -/
def compressibleLines (text : String) : List (List Char) :=
  ((splitLines text.toList).filter (!allBlank ·)).map shrinkLine

/-- A text compressed to about `tokens` tokens. -/
def compress (b : Budget) (tokens : Int) (text : String) : String :=
  let (kept, cut) := b.affordable tokens (compressibleLines text)
  String.ofList (joinLines (if cut then kept ++ [compressionMarker] else kept))

/-- Why a text cannot be compressed to about `tokens` tokens, if it cannot: one of the lines
that are estimated has no estimate. -/
def compressFault? [StandIns] (b : Budget) (tokens : Int) (text : String) : Option Failure :=
  let lines := compressibleLines text
  let estimated := (b.affordable tokens lines).1.length + 1
  (lines.take estimated).findSome? fun line => estimateFault? (String.ofList line)

/-- A text compressed to about `tokens` tokens, or why it cannot be. -/
def compression [StandIns] (b : Budget) (tokens : Int) (text : String) : Outcome String :=
  match b.compressFault? tokens text with
  | some e => .error e
  | none => .ok (b.compress tokens text)

end PatchReview.Budget
