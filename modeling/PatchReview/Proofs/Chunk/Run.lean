import PatchReview.Chunk
import PatchReview.Proofs.Budget.Compression
import PatchReview.Proofs.Budget.Truncation
import PatchReview.Proofs.Journal
import PatchReview.Proofs.Outcome

/-! What building chunks does, block by block.

A block is taken as it is, taken compressed, or ends the review (`Fitted`). The blocks before the
one that ends it become chunks (`Taken`), each with no more tokens than what was taken for it.
Building chunks comes to that, or fails at a block that cannot be written or whose first line number
cannot be read (`run_ofBlocks`). -/
namespace PatchReview.Chunk

open Text Logged
open Budget (estimateFault?_eq_none_iff)

/-- The estimated tokens of some chunks. -/
def tokens (b : Budget) : List Chunk → Nat
  | [] => 0
  | c :: rest => b.estimate c.diff + tokens b rest

section
variable [StandIns] {b : Budget}

/-! ### One block -/

/-- What a block comes to behind `used` tokens, and the events of that. -/
inductive Fitted (b : Budget) (used : Nat) (file block : String) :
    Option String → Journal → Prop where
  | asItIs (hwhole : IsWhole block.toList) (hroom : b.shouldStop used (b.estimate block) = false) :
      Fitted b used file block (some block) []
  | compressed (hfull : b.shouldStop used (b.estimate block) = true)
      (hwhole : IsWhole (b.compress (b.remaining used) block).toList)
      (hroom : b.shouldStop used (b.estimate (b.compress (b.remaining used) block)) = false) :
      Fitted b used file block (some (b.compress (b.remaining used) block))
        [.chunkCompressed file (b.estimate (b.compress (b.remaining used) block))]
  | exhausted (hfull : b.shouldStop used (b.estimate block) = true)
      (hleft : b.remaining used ≤ compressionFloor) :
      Fitted b used file block none [.budgetExhausted file used (b.estimate block)]
  | tooLong (hfull : b.shouldStop used (b.estimate block) = true)
      (hagain : b.shouldStop used (b.estimate (b.compress (b.remaining used) block)) = true) :
      Fitted b used file block none
        [.chunkCompressed file (b.estimate (b.compress (b.remaining used) block)),
          .budgetExhausted file used (b.estimate (b.compress (b.remaining used) block))]

/-- What fits in behind `used` tokens has an estimate, and does not stop the review. -/
structure Fits (b : Budget) (used : Nat) (text : String) : Prop where
  isWhole : IsWhole text.toList
  not_shouldStop : b.shouldStop used (b.estimate text) = false

theorem Fitted.fits {used : Nat} {file block text : String} {events : Journal}
    (h : Fitted b used file block (some text) events) : Fits b used text := by
  cases h with
  | asItIs hwhole hroom => exact ⟨hwhole, hroom⟩
  | compressed _ hwhole hroom => exact ⟨hwhole, hroom⟩

/-- A block for which there is room is taken as it is. -/
theorem Fitted.eq_some_block {used : Nat} {file block : String} {taken : Option String}
    {events : Journal} (h : Fitted b used file block taken events)
    (hroom : b.shouldStop used (b.estimate block) = false) : taken = some block := by
  cases h with
  | asItIs _ _ => rfl
  | compressed hfull _ _ => exact absurd (hroom.symm.trans hfull) (by decide)
  | exhausted hfull _ => exact absurd (hroom.symm.trans hfull) (by decide)
  | tooLong hfull _ => exact absurd (hroom.symm.trans hfull) (by decide)

theorem run_fit_of_fault {block : String} {e : Failure} (h : Budget.estimateFault? block = some e)
    (used : Nat) (file : String) (j : Journal) : run (fit b used file block) j = (.error e, j) := by
  simp only [fit, h]
  rfl

theorem run_fit {block : String} (h : IsWhole block.toList) (used : Nat) (file : String)
    (j : Journal) :
    ∃ taken events, run (fit b used file block) j = (.ok taken, j ++ events) ∧
      Fitted b used file block taken events := by
  have hnone := (estimateFault?_eq_none_iff block).2 h
  cases hstop : b.shouldStop used (b.estimate block) with
  | false =>
    refine ⟨_, _, ?_, .asItIs h hstop⟩
    simp only [fit, hnone, hstop, List.append_nil]
    rfl
  | true =>
    by_cases hleft : b.remaining used ≤ compressionFloor
    · refine ⟨_, _, ?_, .exhausted hstop hleft⟩
      simp only [fit, hnone, hstop, hleft]
      rfl
    · have hwhole := Budget.isWhole_compress h b (b.remaining used)
      cases hagain : b.shouldStop used (b.estimate (b.compress (b.remaining used) block)) with
      | false =>
        refine ⟨_, _, ?_, .compressed hstop hwhole hagain⟩
        simp only [fit, hnone, hstop, hleft, hagain]
        rfl
      | true =>
        refine ⟨_, _, ?_, .tooLong hstop hagain⟩
        rw [List.append_cons]
        simp only [fit, hnone, hstop, hleft, hagain]
        rfl

/-! ### All blocks -/

/-- The chunks that blocks become behind `used` tokens, and the events of that. -/
inductive Taken (limit : Option Nat) (b : Budget) :
    Nat → Diff.Blocks → List Chunk → Journal → Prop where
  | nil {used : Nat} : Taken limit b used [] [] []
  | stop {used start : Nat} {file block : String} {rest : Diff.Blocks} {events : Journal}
      (hstart : Diff.startLineWithin limit block = .ok start)
      (hfitted : Fitted b used file block none events) :
      Taken limit b used ((file, block) :: rest) [] events
  | cons {used start : Nat} {file block text kept : String} {rest : Diff.Blocks}
      {chunks : List Chunk} {events more : Journal}
      (hstart : Diff.startLineWithin limit block = .ok start)
      (hfitted : Fitted b used file block (some text) events) (hkept : b.enforceCap text = .ok kept)
      (hcap : (b.estimate kept : Int) ≤ b.perFileCap) (hle : b.estimate kept ≤ b.estimate text)
      (hrest : Taken limit b (used + b.estimate kept) rest chunks more) :
      Taken limit b used ((file, block) :: rest)
        (⟨file, kept, if start = 0 then none else some (start : Int)⟩ :: chunks) (events ++ more)

/-- What building chunks may come to, events and all. -/
inductive Build (limit : Option Nat) (b : Budget) (used : Nat) (blocks : Diff.Blocks) :
    Outcome (List Chunk × Nat) → Journal → Prop where
  /-- The tokens used in the end are those of the chunks. -/
  | built {chunks : List Chunk} {total : Nat} {events : Journal} :
      Taken limit b used blocks chunks events → total = used + tokens b chunks →
        Build limit b used blocks (.ok (chunks, total)) events
  | unwritable {entry : String × String} {e : Failure} {events : Journal} : entry ∈ blocks →
      Budget.estimateFault? entry.2 = some e → Build limit b used blocks (.error e) events
  | unreadable {entry : String × String} {e : NumeralError} {events : Journal} : entry ∈ blocks →
      Diff.startLineWithin limit entry.2 = .error e →
        Build limit b used blocks (.error (.numeral e)) events

theorem run_ofBlocks_stop {limit : Option Nat} {used start : Nat} {file block : String}
    {j j' : Journal} (hstart : Diff.startLineWithin limit block = .ok start)
    (hfit : run (fit b used file block) j = (.ok none, j')) (rest : Diff.Blocks) :
    run (ofBlocks limit b used ((file, block) :: rest)) j = (.ok ([], used), j') := by
  rw [ofBlocks, run_bind, run_liftM, Outcome.mapError_eq_ok hstart]
  simp only [run_bind, hfit]
  rfl

theorem run_ofBlocks_cons {limit : Option Nat} {used start : Nat} {file block text kept : String}
    {j j' j'' : Journal} {rest : Diff.Blocks} {result : Outcome (List Chunk × Nat)}
    (hstart : Diff.startLineWithin limit block = .ok start)
    (hfit : run (fit b used file block) j = (.ok (some text), j'))
    (hkept : b.enforceCap text = .ok kept)
    (hrest : run (ofBlocks limit b (used + b.estimate kept) rest) j' = (result, j'')) :
    run (ofBlocks limit b used ((file, block) :: rest)) j =
      (result.map fun built =>
        (⟨file, kept, if start = 0 then none else some (start : Int)⟩ :: built.1, built.2),
        j'') := by
  rw [ofBlocks, run_bind, run_liftM, Outcome.mapError_eq_ok hstart]
  simp only [run_bind, hfit, run_liftM, hkept, hrest]
  cases result <;> rfl

theorem run_ofBlocks (limit : Option Nat) (hcap : 0 ≤ b.perFileCap) (blocks : Diff.Blocks)
    (used : Nat) (j : Journal) :
    ∃ result events, run (ofBlocks limit b used blocks) j = (result, j ++ events) ∧
      Build limit b used blocks result events := by
  induction blocks generalizing used j with
  | nil =>
    refine ⟨_, [], ?_, .built .nil rfl⟩
    rw [List.append_nil]
    rfl
  | cons entry rest ih =>
    obtain ⟨file, block⟩ := entry
    cases hstart : Diff.startLineWithin limit block with
    | error e =>
      refine ⟨.error (.numeral e), [], ?_, .unreadable List.mem_cons_self hstart⟩
      rw [ofBlocks, run_bind, run_liftM, hstart, List.append_nil]
      rfl
    | ok start =>
      cases hfault : Budget.estimateFault? block with
      | some e =>
        refine ⟨.error e, [], ?_, .unwritable List.mem_cons_self hfault⟩
        rw [ofBlocks, run_bind, run_liftM, Outcome.mapError_eq_ok hstart]
        simp only [run_bind, run_fit_of_fault hfault, List.append_nil]
      | none =>
        have hwhole := (estimateFault?_eq_none_iff block).1 hfault
        obtain ⟨taken, events, hfit, hfitted⟩ := run_fit (b := b) hwhole used file j
        cases taken with
        | none =>
          exact ⟨_, events, run_ofBlocks_stop hstart hfit rest, .built (.stop hstart hfitted) rfl⟩
        | some text =>
          have hnone := (estimateFault?_eq_none_iff text).2 hfitted.fits.isWhole
          obtain ⟨kept, hkept, hkeptcap, hle⟩ := Budget.enforceCap_le hcap hnone
          obtain ⟨result, more, hrest, hbuild⟩ := ih (used + b.estimate kept) (j ++ events)
          rw [List.append_assoc] at hrest
          refine ⟨_, events ++ more, run_ofBlocks_cons hstart hfit hkept hrest, ?_⟩
          cases hbuild with
          | built htaken htotal =>
            refine .built (.cons hstart hfitted hkept hkeptcap hle htaken) ?_
            rw [htotal, tokens, Nat.add_assoc]
          | unwritable hm he => exact .unwritable (List.mem_cons_of_mem _ hm) he
          | unreadable hm he => exact .unreadable (List.mem_cons_of_mem _ hm) he

end

/-! ### Whole diffs -/

/-- Grouping chunks by context keeps their order. -/
theorem flatten_contextRuns (chunks : List Chunk) : (contextRuns chunks).flatten = chunks := by
  induction chunks with
  | nil => rfl
  | cons c rest ih =>
    rw [contextRuns]
    split
    · rename_i d run runs hruns
      rw [hruns] at ih
      split <;> simpa using ih
    · simpa using ih

section
variable [StandIns] {b : Budget}

/-- The chunks that are built are counted, and their tokens are written down. -/
theorem run_ofDiffWithin {limit : Option Nat} {patterns : List String} {diff : String}
    {blocks : Diff.Blocks}
    (hblocks : Diff.keptBlocks patterns (Budget.withoutTrivial diff) = .ok blocks)
    (byContext : Bool) (j : Journal) :
    run (ofDiffWithin limit b byContext patterns diff) j =
      match run (ofBlocks limit b 0 blocks) j with
      | (.ok (chunks, used), j') => (.ok chunks, j' ++ [.chunksBuilt chunks.length used])
      | (.error e, j') => (.error e, j') := by
  rw [ofDiffWithin, run_bind, run_liftM, hblocks]
  simp only [run_bind]
  obtain ⟨result, j'⟩ := run (ofBlocks limit b 0 blocks) j
  cases result with
  | error e => rfl
  | ok built =>
    simp only [flatten_contextRuns, ite_self, run_record, run_pure]

theorem run_ofDiffWithin_of_error {limit : Option Nat} {patterns : List String} {diff : String}
    {e : Failure}
    (hblocks : Diff.keptBlocks patterns (Budget.withoutTrivial diff) = .error e) (byContext : Bool)
    (j : Journal) : run (ofDiffWithin limit b byContext patterns diff) j = (.error e, j) := by
  rw [ofDiffWithin, run_bind, run_liftM, hblocks]

/-- Building chunks from the blocks that are kept decides everything. -/
theorem result_ofDiffWithin_of_cap (limit : Option Nat) (hcap : 0 ≤ b.perFileCap) (byContext : Bool)
    {patterns : List String} {diff : String} {blocks : Diff.Blocks}
    (hblocks : Diff.keptBlocks patterns (Budget.withoutTrivial diff) = .ok blocks) :
    ∃ built events, Build limit b 0 blocks built events ∧
      (ofDiffWithin limit b byContext patterns diff).result =
        match built with
        | .ok (chunks, used) => (.ok chunks, events ++ [.chunksBuilt chunks.length used])
        | .error e => (.error e, events) := by
  obtain ⟨built, events, hrun, hbuild⟩ := run_ofBlocks limit hcap blocks 0 []
  refine ⟨built, events, hbuild, ?_⟩
  rw [result_eq_run, run_ofDiffWithin hblocks, hrun, List.nil_append]
  cases built <;> rfl

end

end PatchReview.Chunk
