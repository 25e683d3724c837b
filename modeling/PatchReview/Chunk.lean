import PatchReview.Budget.Compression
import PatchReview.Budget.Trivial
import PatchReview.Budget.Truncation
import PatchReview.Context
import PatchReview.Diff.Exclusion
import PatchReview.Journal

/-! The pieces of a diff that a reviewer is given.

Each file's block becomes a chunk, in order, until the budget is used up: the first block
that no longer fits is compressed if enough is left, and if it still does not fit, it and
all blocks behind it are left out. A chunk is never over the cap for a file. Grouping chunks
by context (`contextRuns`) puts neighbours of one kind together and keeps the order. -/
namespace PatchReview

variable [Text.StandIns]

structure Chunk where
  file : String
  diff : String
  /-- Where the first hunk starts, if there is one. -/
  startLine : Option Int
  deriving DecidableEq, Repr

namespace Chunk

/-- The first line that a chunk is about. -/
def line (c : Chunk) : Int := c.startLine.getD 1

/-- With no more than so many tokens left, compression is not tried. -/
def compressionFloor : Int := 100

/-- A block as far as the budget allows: as it is, compressed, or not at all. -/
def fit (b : Budget) (used : Nat) (file block : String) : Logged (Option String) := do
  if let some e := Budget.estimateFault? block then throw e
  let tokens := b.estimate block
  if !b.shouldStop used tokens then return some block
  let left := b.remaining used
  if left ≤ compressionFloor then
    record (.budgetExhausted file used tokens)
    return none
  let compressed := b.compress left block
  let tokens := b.estimate compressed
  record (.chunkCompressed file tokens)
  if b.shouldStop used tokens then
    record (.budgetExhausted file used tokens)
    return none
  return some compressed

/-- The chunks of the blocks that fit behind `used` tokens, and the tokens used in the end. The
starts of hunks may have as many digits as a limit allows. -/
def ofBlocks (limit : Option Nat) (b : Budget) (used : Nat) :
    Diff.Blocks → Logged (List Chunk × Nat)
  | [] => return ([], used)
  | (file, block) :: rest => do
    let start ← (Diff.startLineWithin limit block).mapError Failure.numeral
    match ← fit b used file block with
    | none => return ([], used)
    | some text =>
      let text ← b.enforceCap text
      let (chunks, total) ← ofBlocks limit b (used + b.estimate text) rest
      return (⟨file, text, if start = 0 then none else some (start : Int)⟩ :: chunks, total)

/-- The kind of code that a chunk touches. -/
def context (c : Chunk) : CodeContext := CodeContext.detect c.diff

/-- Neighbouring chunks of one kind, together. -/
def contextRuns : List Chunk → List (List Chunk)
  | [] => []
  | c :: rest =>
    match contextRuns rest with
    | (d :: run) :: runs =>
      if c.context = d.context then (c :: d :: run) :: runs else [c] :: (d :: run) :: runs
    | runs => [c] :: runs

/-- The chunks of a diff without the files that are left out, where the starts of hunks may have
as many digits as a limit allows. -/
def ofDiffWithin (limit : Option Nat) (b : Budget) (byContext : Bool) (excludes : List String)
    (diff : String) : Logged (List Chunk) := do
  let blocks ← Diff.keptBlocks excludes (Budget.withoutTrivial diff)
  let (chunks, used) ← ofBlocks limit b 0 blocks
  let chunks := if byContext then (contextRuns chunks).flatten else chunks
  record (.chunksBuilt chunks.length used)
  return chunks

/-- The chunks of a diff without the files that are left out. -/
def ofDiff : Budget → Bool → List String → String → Logged (List Chunk) :=
  ofDiffWithin (some Text.digitLimit)

end Chunk

end PatchReview
