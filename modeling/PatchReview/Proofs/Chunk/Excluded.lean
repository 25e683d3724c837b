import PatchReview.Proofs.Chunk
import PatchReview.Proofs.Diff.Removal

/-! Files that are left out leave no trace in what a reviewer is given.

Building chunks looks at a diff only through the blocks that are kept, and those are the blocks of
the diff without the files that are left out. So taking these files out of the text first changes
neither the chunks nor what is written down about the budget, and it does not matter what stands in
them, how much of it there is and whether it can be written. -/
namespace PatchReview.Chunk

open Text
open Budget (estimateFault?_eq_none_iff)

section
variable [StandIns] {patterns : List String}

/-- The blocks that are kept decide everything. -/
theorem ofDiffWithin_congr {diff other : String}
    (h : Diff.keptBlocks patterns (Budget.withoutTrivial diff) =
      Diff.keptBlocks patterns (Budget.withoutTrivial other))
    (limit : Option Nat) (b : Budget) (byContext : Bool) :
    ofDiffWithin limit b byContext patterns diff =
      ofDiffWithin limit b byContext patterns other := by
  rw [ofDiffWithin, ofDiffWithin, h]

/-- Blocks that can all be written, and whose first line numbers can be read, become chunks. -/
theorem exists_result_of_blocks {limit : Option Nat} {b : Budget} (hcap : 0 ≤ b.perFileCap)
    (byContext : Bool) {diff : String} {blocks : Diff.Blocks}
    (hblocks : Diff.keptBlocks patterns (Budget.withoutTrivial diff) = .ok blocks)
    (hwhole : ∀ e ∈ blocks, IsWhole e.2.toList)
    (hstart : ∀ e ∈ blocks, ∃ start, Diff.startLineWithin limit e.2 = .ok start) :
    ∃ chunks journal,
      (ofDiffWithin limit b byContext patterns diff).result = (.ok chunks, journal) := by
  obtain ⟨built, events, hbuild, hresult⟩ :=
    result_ofDiffWithin_of_cap limit hcap byContext hblocks
  cases hbuild with
  | built _ _ => exact ⟨_, _, hresult⟩
  | unwritable hm he =>
    rw [(estimateFault?_eq_none_iff _).2 (hwhole _ hm)] at he
    exact absurd he (Option.some_ne_none _).symm
  | unreadable hm he =>
    obtain ⟨start, hok⟩ := hstart _ hm
    rw [hok] at he
    exact absurd he (by simp)

/-- A diff gives the chunks, and spends the budget, that it does with the files taken out that are
left out. So do all diffs that differ in nothing but these files, and if what is left of them can be
written and has first line numbers that can be read, chunks are returned. -/
theorem ofDiffWithin_ignores_leftOut (hpatterns : ∀ p ∈ patterns, Diff.Compiles p)
    (limit : Option Nat) (b : Budget) (byContext : Bool) {diff : String}
    (hreturn : '\r' ∉ diff.toList) :
    let left := Diff.erase (Diff.leavesOut patterns) diff
    (ofDiffWithin limit b byContext patterns diff).result =
        (ofDiffWithin limit b byContext patterns left).result ∧
      (∀ other : String, '\r' ∉ other.toList → Diff.erase (Diff.leavesOut patterns) other = left →
        (ofDiffWithin limit b byContext patterns other).result =
          (ofDiffWithin limit b byContext patterns diff).result) ∧
      (0 ≤ b.perFileCap → IsWhole left.toList →
        (∀ e ∈ Diff.blocks (Budget.withoutTrivial left),
          ∃ start, Diff.startLineWithin limit e.2 = .ok start) →
        ∃ chunks journal,
          (ofDiffWithin limit b byContext patterns diff).result = (.ok chunks, journal)) := by
  intro left
  have ⟨hkept, hleft⟩ := Diff.keptBlocks_erase hpatterns hreturn
  refine ⟨?_, ?_, ?_⟩
  · rw [ofDiffWithin_congr (hkept.trans hleft.symm)]
  · intro other hother hsame
    have ⟨hkept', _⟩ := Diff.keptBlocks_erase hpatterns hother
    rw [hsame] at hkept'
    rw [ofDiffWithin_congr (hkept'.trans hkept.symm)]
  · intro hcap hwhole hstart
    exact exists_result_of_blocks hcap byContext hkept (fun _ he => isWhole_block hwhole he) hstart

end

theorem compiles_docs [StandIns] : Diff.Compiles "docs/" := by
  have hparts : Glob.Pathname.parts (Glob.unifySeparators "docs/".toList) =
      [.char 'd', .char 'o', .char 'c', .char 's', .char '/'] := by
    rw [show Glob.unifySeparators "docs/".toList = ['d', 'o', 'c', 's', '/'] by decide]
    simp [Glob.Pathname.parts]
  refine ⟨.pieces [.char 'd', .char 'o', .char 'c', .char 's', .char '/'], ?_⟩
  rw [Glob.Pathname.compile, hparts]
  rfl

/-- Whatever a change to the documentation is, a reviewer is given the other file. -/
theorem ofDiffWithin_ignores_docs :
    letI : StandIns := ⟨.besides []⟩
    let b : Budget := ⟨8000, 2000, "trim", "mock"⟩
    let diff := "diff --git a/docs/x b/docs/x\n+1\ndiff --git a/y b/y\n+2\n"
    let other := "diff --git a/y b/y\n+2\ndiff --git a/docs/z b/docs/z\n@@ -1 +1 @@\n+3"
    (∀ p ∈ ["docs/"], Diff.Compiles p) ∧ '\r' ∉ diff.toList ∧ '\r' ∉ other.toList ∧
      Diff.erase (Diff.leavesOut ["docs/"]) diff = "diff --git a/y b/y\n+2\n" ∧
      Diff.erase (Diff.leavesOut ["docs/"]) other = "diff --git a/y b/y\n+2\n" ∧
      (ofDiffWithin (some digitLimit) b false ["docs/"] diff).result =
        (ofDiffWithin (some digitLimit) b false ["docs/"] "diff --git a/y b/y\n+2\n").result ∧
      (ofDiffWithin (some digitLimit) b false ["docs/"] other).result =
        (ofDiffWithin (some digitLimit) b false ["docs/"] diff).result ∧
      ∃ chunks journal,
        (ofDiffWithin (some digitLimit) b false ["docs/"] diff).result = (.ok chunks, journal) := by
  let _ : StandIns := ⟨.besides []⟩
  intro b diff other
  have hcompiles : ∀ p ∈ ["docs/"], Diff.Compiles p := fun p hp =>
    List.mem_singleton.1 hp ▸ compiles_docs
  have hdiff : '\r' ∉ diff.toList := by decide
  have hother : '\r' ∉ other.toList := by decide
  have hleft : Diff.erase (Diff.leavesOut ["docs/"]) diff = "diff --git a/y b/y\n+2\n" := by decide
  have hleft' : Diff.erase (Diff.leavesOut ["docs/"]) other = "diff --git a/y b/y\n+2\n" := by
    decide
  have ⟨hsame, hothers, hok⟩ :=
    ofDiffWithin_ignores_leftOut hcompiles (some digitLimit) b false hdiff
  refine ⟨hcompiles, hdiff, hother, hleft, hleft', ?_, ?_, ?_⟩
  · rw [hsame, hleft]
  · exact hothers other hother (hleft'.trans hleft.symm)
  · rw [hleft] at hok
    have hwhole : isAssigned "diff --git a/y b/y\n+2\n".toList = true := by decide
    have hblocks : Diff.blocks (Budget.withoutTrivial "diff --git a/y b/y\n+2\n") =
        [("b/y", "diff --git a/y b/y\n+2\n")] := by decide
    refine hok (by decide) (isWhole_of_isAssigned hwhole) fun e he => ⟨0, ?_⟩
    rw [hblocks] at he
    rw [List.mem_singleton.1 he]
    rfl

end PatchReview.Chunk
