import Mathlib.Data.List.Forall2
import PatchReview.Proofs.Chunk

/-! Which blocks become chunks.

The blocks that become chunks are the first ones, and the budget runs out once if there are others
behind them. There are none if the strategy does not stop or the estimates of all blocks are within
the cap on all tokens: cutting a block to the cap for a file never makes it longer, so that what is
used stays below the estimates of the blocks before (`Taken.cutsTail`). -/
namespace PatchReview.Chunk

open Text Logged
open Budget (estimateFault?_eq_none_iff)

/-- Whether an event says that the budget has run out. -/
def isExhaustion : Event → Bool
  | .budgetExhausted .. => true
  | _ => false

/-- How often the budget has run out. -/
def exhaustions (journal : Journal) : Nat := journal.countP isExhaustion

/-- The estimated tokens of some blocks. -/
def estimates (b : Budget) : Diff.Blocks → Nat
  | [] => 0
  | (_, block) :: rest => b.estimate block + estimates b rest

/-- A chunk that stands for a block. -/
structure StandsFor (entry : String × String) (c : Chunk) : Prop where
  file_eq : c.file = entry.1
  startLine_eq : ∃ start, Diff.startLineWithin none entry.2 = .ok start ∧
    c.startLine = if start = 0 then none else some (start : Int)

/-! ### Room and events -/

/-- Where there is room for some blocks, the first of them does not stop the review. -/
theorem not_shouldStop_of_room {b : Budget} {used : Nat} {file block : String}
    {rest : Diff.Blocks}
    (h : b.strategy ≠ "trim" ∨
      ((used + estimates b ((file, block) :: rest) : Nat) : Int) ≤ b.globalCap) :
    b.shouldStop used (b.estimate block) = false := by
  rw [Budget.shouldStop, Bool.and_eq_false_iff, decide_eq_false_iff_not, beq_eq_false_iff_ne]
  rcases h with h | h
  · exact .inr h
  · refine .inl ?_
    rw [estimates] at h
    omega

theorem exhaustions_append (before after : Journal) :
    exhaustions (before ++ after) = exhaustions before + exhaustions after :=
  List.countP_append

theorem exhaustions_chunksBuilt (count tokens : Nat) :
    exhaustions [.chunksBuilt count tokens] = 0 := rfl

/-! ### Block by block -/

section
variable [StandIns] {b : Budget}

/-- A chunk with the text of a block, as far as the cap for a file allows. -/
structure Keeps (b : Budget) (entry : String × String) (c : Chunk) : Prop
    extends StandsFor entry c where
  diff_eq : b.enforceCap entry.2 = .ok c.diff
  verbatim : (b.estimate entry.2 : Int) ≤ b.perFileCap → c.diff = entry.2

/-- Chunks that stand for the first of some blocks, for all of them if there is room behind the
tokens that are used. -/
structure CutsTail (b : Budget) (used : Nat) (blocks : Diff.Blocks) (chunks : List Chunk)
    (journal : Journal) : Prop where
  taken : ∃ taken left, blocks = taken ++ left ∧ List.Forall₂ StandsFor taken chunks ∧
    exhaustions journal = if left = [] then 0 else 1
  whole : b.strategy ≠ "trim" ∨ ((used + estimates b blocks : Nat) : Int) ≤ b.globalCap →
    List.Forall₂ (Keeps b) blocks chunks

/-- The budget runs out exactly if a block is not taken. -/
theorem Fitted.exhaustions_eq {used : Nat} {file block : String} {taken : Option String}
    {events : Journal} (h : Fitted b used file block taken events) :
    exhaustions events = if taken = none then 1 else 0 := by
  cases h with
  | asItIs _ _ => rfl
  | compressed _ _ _ => rfl
  | exhausted _ _ => rfl
  | tooLong _ _ => rfl

theorem Taken.cutsTail {used : Nat} {blocks : Diff.Blocks} {chunks : List Chunk} {events : Journal}
    (h : Taken none b used blocks chunks events) : CutsTail b used blocks chunks events := by
  induction h with
  | nil => exact ⟨⟨[], [], rfl, .nil, rfl⟩, fun _ => .nil⟩
  | @stop used start file block rest events hstart hfitted =>
    refine ⟨⟨[], _, rfl, .nil, hfitted.exhaustions_eq⟩, fun hroom => ?_⟩
    have htaken := hfitted.eq_some_block (not_shouldStop_of_room hroom)
    exact absurd htaken (Option.some_ne_none block).symm
  | @cons used start file block text kept rest chunks events more hstart hfitted hkept _ hle _ ih =>
    have hstands : StandsFor (file, block)
        ⟨file, kept, if start = 0 then none else some (start : Int)⟩ := ⟨rfl, start, hstart, rfl⟩
    obtain ⟨taken, left, hsplit, hpairs, hcount⟩ := ih.taken
    refine ⟨⟨(file, block) :: taken, left, congrArg _ hsplit, .cons hstands hpairs, ?_⟩,
      fun hroom => ?_⟩
    · rw [exhaustions_append, hfitted.exhaustions_eq, hcount, if_neg (Option.some_ne_none text),
        Nat.zero_add]
    · obtain rfl := Option.some.inj (hfitted.eq_some_block (not_shouldStop_of_room hroom))
      have hnone := (estimateFault?_eq_none_iff text).2 hfitted.fits.isWhole
      refine .cons ⟨hstands, hkept, fun hbelow => ?_⟩ (ih.whole ?_)
      · exact Except.ok.inj (hkept.symm.trans (Budget.enforceCap_of_le hnone hbelow))
      · -- What is used grows by no more than the estimates of what is left go down.
        refine hroom.imp_right fun hall => ?_
        rw [estimates] at hall
        omega

/-- **Cutting the tail.** Whatever the budget and the diff, the chunks stand for the first blocks of
the files that are kept, each file once and in order, unless a block that is kept cannot be written.
A diff that can be written has no such block. -/
theorem ofDiffWithin_cuts_tail (hcap : 0 ≤ b.perFileCap) (byContext : Bool)
    {patterns : List String} (hpatterns : ∀ p ∈ patterns, Diff.Compiles p) (diff : String) :
    ∃ blocks, Diff.keptBlocks patterns (Budget.withoutTrivial diff) = .ok blocks ∧
      (Keyed.keys blocks).Nodup ∧
      ((∃ chunks journal, (ofDiffWithin none b byContext patterns diff).result =
          (.ok chunks, journal) ∧ CutsTail b 0 blocks chunks journal) ∨
        ∃ entry ∈ blocks, ∃ e journal, Budget.estimateFault? entry.2 = some e ∧
          (ofDiffWithin none b byContext patterns diff).result = (.error e, journal)) ∧
      (IsWhole diff.toList → ∃ chunks journal,
        (ofDiffWithin none b byContext patterns diff).result = (.ok chunks, journal)) := by
  obtain ⟨blocks, hblocks, hmem⟩ := Diff.withoutExcluded_of_compiles hpatterns
    (Diff.blocks (Budget.withoutTrivial diff))
  obtain ⟨built, events, hbuild, hresult⟩ := result_ofDiffWithin_of_cap none hcap byContext hblocks
  refine ⟨blocks, hblocks, Diff.nodup_keys_of_keptBlocks hblocks, ?_⟩
  cases hbuild with
  | @built chunks total _ htaken _ =>
    obtain ⟨⟨taken, left, hsplit, hpairs, hcount⟩, hwhole⟩ := htaken.cutsTail
    have hjournal : exhaustions (events ++ [.chunksBuilt chunks.length total]) =
        if left = [] then 0 else 1 := by
      rw [exhaustions_append, hcount, exhaustions_chunksBuilt, Nat.add_zero]
    exact ⟨.inl ⟨_, _, hresult, ⟨taken, left, hsplit, hpairs, hjournal⟩, hwhole⟩,
      fun _ => ⟨_, _, hresult⟩⟩
  | unwritable hm he =>
    refine ⟨.inr ⟨_, hm, _, _, he, hresult⟩, fun hdiff => ?_⟩
    rw [(estimateFault?_eq_none_iff _).2 (isWhole_block hdiff (hmem _ hm))] at he
    exact absurd he (Option.some_ne_none _).symm
  | unreadable _ he => exact absurd he (startLineWithin_none _ _)

end

/-- A budget with room for one of two files. -/
theorem ofDiffWithin_cuts_tail_second :
    letI : StandIns := ⟨.besides []⟩
    let b : Budget := ⟨9, 2000, "trim", "mock"⟩
    let diff := "diff --git a/x b/x\ndiff --git a/y b/y\n"
    0 ≤ b.perFileCap ∧ (∀ p ∈ ["*.md"], Diff.Compiles p) ∧ ∃ blocks chunks journal,
      Diff.keptBlocks ["*.md"] (Budget.withoutTrivial diff) = .ok blocks ∧
        (ofDiffWithin none b false ["*.md"] diff).result = (.ok chunks, journal) ∧
          CutsTail b 0 blocks chunks journal := by
  let _ : StandIns := ⟨.besides []⟩
  intro b diff
  have hcap : 0 ≤ b.perFileCap := by decide
  have hcompiles : ∀ p ∈ ["*.md"], Diff.Compiles p := fun p hp =>
    List.mem_singleton.1 hp ▸ compiles_md
  have hwhole : isAssigned diff.toList = true := by decide
  obtain ⟨blocks, hblocks, -, hcuts, hok⟩ := ofDiffWithin_cuts_tail hcap false hcompiles diff
  obtain ⟨chunks, journal, hresult⟩ := hok (isWhole_of_isAssigned hwhole)
  refine ⟨hcap, hcompiles, blocks, chunks, journal, hblocks, hresult, ?_⟩
  rcases hcuts with ⟨_, _, hresult', hcut⟩ | ⟨_, _, _, _, _, hfails⟩
  · obtain ⟨he, rfl⟩ := Prod.mk.inj (hresult.symm.trans hresult')
    obtain rfl := Except.ok.inj he
    exact hcut
  · exact absurd (Prod.mk.inj (hresult.symm.trans hfails)).1 (by simp)

/-- Also a budget that stops at nothing stops at half of a surrogate pair. -/
theorem ofDiffWithin_keep_half :
    letI : StandIns := ⟨.besides []⟩
    ∃ b, Budget.ofEntries [("overflow_strategy", .text "keep"), ("provider", .text "mock")] =
        .ok b ∧ 0 ≤ b.perFileCap ∧ b.strategy ≠ "trim" ∧
      ∃ e journal, (ofDiffWithin none b false []
        (String.ofList (headerEndingIn (Surrogate.standIn 0xD800)))).result =
          (.error e, journal) := by
  let _ : StandIns := ⟨.besides []⟩
  refine ⟨⟨8000, 2000, "keep", lower "mock"⟩, rfl, by decide, by decide, ?_⟩
  exact ofDiffWithin_headerEndingIn (Surrogate.half?_standIn (by decide)) _ _

end PatchReview.Chunk
