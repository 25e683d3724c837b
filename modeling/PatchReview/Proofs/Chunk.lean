import PatchReview.Proofs.Chunk.Run
import PatchReview.Proofs.Diff.Exclusion
import PatchReview.Proofs.Diff.Sections
import PatchReview.Settings.Basic

/-! Chunks stay within the budget.

A block fits in behind the tokens that are used (`Fits`) before it is cut to the cap for a file, and
what it is cut to takes no more tokens than the block did. So the total that goes on to the next
block is never behind the tokens of the chunks, and never beyond the cap on all tokens
(`Within.cons`, `Taken.within`). Building chunks fails only at a block that cannot be written
(`ofDiffWithin_keeps_budget`). -/
namespace PatchReview.Chunk

open Text Logged
open Budget (estimateFault?_eq_none_iff)

/-! ### Tokens of chunks -/

/-- Events of the time before the chunks are counted. -/
def Uncounted (events : Journal) : Prop := ∀ count tokens, .chunksBuilt count tokens ∉ events

section
variable {b : Budget}

/-- Chunks that are each below the cap for a file and, with what was used before them, below the
cap on all tokens, if the strategy stops there. -/
structure Within (b : Budget) (used : Nat) (chunks : List Chunk) : Prop where
  estimate_le : ∀ c ∈ chunks, (b.estimate c.diff : Int) ≤ b.perFileCap
  tokens_le : b.strategy = "trim" → (used : Int) ≤ b.globalCap →
    ((used + tokens b chunks : Nat) : Int) ≤ b.globalCap

theorem Within.nil (b : Budget) (used : Nat) : Within b used [] :=
  ⟨fun _ hc => absurd hc List.not_mem_nil, fun _ h => h⟩

/-- A chunk that takes no more than a text that does not stop the review leaves room for the chunks
behind it. -/
theorem Within.cons {used : Nat} {text : String}
    (hstop : b.shouldStop used (b.estimate text) = false) {c : Chunk}
    (hcap : (b.estimate c.diff : Int) ≤ b.perFileCap) (hle : b.estimate c.diff ≤ b.estimate text)
    {chunks : List Chunk} (h : Within b (used + b.estimate c.diff) chunks) :
    Within b used (c :: chunks) := by
  refine ⟨?_, fun htrim _ => ?_⟩
  · intro d hd
    rcases List.mem_cons.1 hd with rfl | hd
    · exact hcap
    · exact h.estimate_le d hd
  · have hroom : (used : Int) + b.estimate text ≤ b.globalCap := by
      rw [Budget.shouldStop, htrim] at hstop
      simpa using hstop
    have hrest := h.tokens_le htrim (by omega)
    rw [tokens]
    omega

theorem Taken.within [StandIns] {limit : Option Nat} {used : Nat} {blocks : Diff.Blocks}
    {chunks : List Chunk} {events : Journal} (h : Taken limit b used blocks chunks events) :
    Within b used chunks := by
  induction h with
  | nil => exact .nil b _
  | stop _ _ => exact .nil b _
  | cons _ hfitted _ hcap hle _ ih =>
    refine .cons hfitted.fits.not_shouldStop ?_ ?_ ?_
    · exact hcap
    · exact hle
    · exact ih

theorem Fitted.uncounted [StandIns] {used : Nat} {file block : String} {taken : Option String}
    {events : Journal} (h : Fitted b used file block taken events) : Uncounted events := by
  cases h <;> simp [Uncounted]

theorem Taken.uncounted [StandIns] {limit : Option Nat} {used : Nat} {blocks : Diff.Blocks}
    {chunks : List Chunk} {events : Journal} (h : Taken limit b used blocks chunks events) :
    Uncounted events := by
  induction h with
  | nil => exact fun _ _ => List.not_mem_nil
  | stop _ hfitted => exact hfitted.uncounted
  | cons _ hfitted _ _ _ _ ih =>
    intro count tokens hm
    rcases List.mem_append.1 hm with hm | hm
    · exact hfitted.uncounted count tokens hm
    · exact ih count tokens hm

end

/-! ### Around the blocks -/

theorem mem_withoutTrivial {diff : String} {c : Char}
    (h : c ∈ (Budget.withoutTrivial diff).toList) : c ∈ diff.toList ∨ c = '\n' := by
  rw [Budget.withoutTrivial, String.toList_ofList] at h
  rcases mem_joinLines h with rfl | ⟨line, hl, hc⟩
  · exact .inr rfl
  · exact .inl ((mem_of_mem_splitNewlines (List.mem_filter.1 hl).1).2 c hc)

theorem startLineWithin_none (block : String) (e : NumeralError) :
    Diff.startLineWithin none block ≠ .error e := by
  unfold Diff.startLineWithin
  split
  · exact fun h => absurd h (by simp)
  · exact fun h => absurd h (by simp [readNaturalWithin])

/-! ### Settings -/

/-- Chunks that keep to the settings, and a journal that says how many tokens they take. -/
structure KeepsBudget (c : ContextSettings) (b : Budget) (chunks : List Chunk) (journal : Journal) :
    Prop where
  estimate_le : ∀ k ∈ chunks, b.estimate k.diff ≤ c.fileCap
  journal_eq : ∃ earlier, Uncounted earlier ∧
    journal = earlier ++ [.chunksBuilt chunks.length (tokens b chunks)]
  tokens_le : c.overflow = .trim → tokens b chunks ≤ c.tokenLimit

theorem Within.keepsBudget {c : ContextSettings} {reviewer : String} {chunks : List Chunk}
    (h : Within (c.budget reviewer) 0 chunks) {events : Journal} (hevents : Uncounted events) :
    KeepsBudget c (c.budget reviewer) chunks
      (events ++ [.chunksBuilt chunks.length (0 + tokens (c.budget reviewer) chunks)]) := by
  refine ⟨fun k hk => Int.ofNat_le.1 (h.estimate_le k hk), ⟨events, hevents, ?_⟩, fun htrim => ?_⟩
  · rw [Nat.zero_add]
  · have hle := h.tokens_le (congrArg Overflow.name htrim) (Int.natCast_nonneg _)
    rw [Nat.zero_add] at hle
    exact Int.ofNat_le.1 hle

section
variable [StandIns] {b : Budget}

/-! ### Whole diffs -/

/-- The blocks of a diff that can be written can be written. -/
theorem isWhole_block {diff : String} (h : IsWhole diff.toList) {e : String × String}
    (he : e ∈ Diff.blocks (Budget.withoutTrivial diff)) : IsWhole e.2.toList := by
  refine h.of_mem fun c hc => ?_
  rcases Diff.mem_of_mem_block he c hc with hc | rfl
  · rcases mem_withoutTrivial hc with hc | rfl
    · exact .inl hc
    · exact .inr (by decide)
  · exact .inr (by decide)

/-- With settings, building chunks from the blocks that are kept decides everything. -/
theorem result_ofDiffWithin (limit : Option Nat) (c : ContextSettings) (reviewer : String)
    {patterns : List String} {diff : String} {blocks : Diff.Blocks}
    (hblocks : Diff.keptBlocks patterns (Budget.withoutTrivial diff) = .ok blocks) :
    ∃ built events, Build limit (c.budget reviewer) 0 blocks built events ∧
      (ofDiffWithin limit (c.budget reviewer) c.byContext patterns diff).result =
        match built with
        | .ok (chunks, used) => (.ok chunks, events ++ [.chunksBuilt chunks.length used])
        | .error e => (.error e, events) := by
  have hcap : 0 ≤ (c.budget reviewer).perFileCap := Int.natCast_nonneg _
  exact result_ofDiffWithin_of_cap limit hcap c.byContext hblocks

/-- Chunks that are returned keep to the settings, however many digits the starts of hunks may
have. -/
theorem keepsBudget_of_result_eq {limit : Option Nat} {c : ContextSettings} {reviewer : String}
    {patterns : List String} {diff : String} {chunks : List Chunk} {journal : Journal}
    (h : (ofDiffWithin limit (c.budget reviewer) c.byContext patterns diff).result =
      (.ok chunks, journal)) : KeepsBudget c (c.budget reviewer) chunks journal := by
  cases hblocks : Diff.keptBlocks patterns (Budget.withoutTrivial diff) with
  | error e =>
    rw [result_eq_run, run_ofDiffWithin_of_error hblocks] at h
    exact absurd (Prod.mk.inj h).1 (by simp)
  | ok blocks =>
    obtain ⟨built, events, hbuild, hresult⟩ := result_ofDiffWithin limit c reviewer hblocks
    rw [hresult] at h
    cases hbuild with
    | built htaken htotal =>
      obtain ⟨hchunks, rfl⟩ := Prod.mk.inj h
      obtain rfl := Except.ok.inj hchunks
      rw [htotal]
      exact htaken.within.keepsBudget htaken.uncounted
    | unwritable _ _ => exact absurd (Prod.mk.inj h).1 (by simp)
    | unreadable _ _ => exact absurd (Prod.mk.inj h).1 (by simp)

/-- Building chunks keeps to the settings, whatever the diff, unless a block that is kept cannot be
written. A diff that can be written has no such block. -/
theorem ofDiffWithin_keeps_budget (c : ContextSettings) (reviewer : String)
    {patterns : List String} (hpatterns : ∀ p ∈ patterns, Diff.Compiles p) (diff : String) :
    ∃ b blocks, Budget.ofEntries (c.entriesFor reviewer) = .ok b ∧
      Diff.keptBlocks patterns (Budget.withoutTrivial diff) = .ok blocks ∧
      ((∃ chunks journal, (ofDiffWithin none b c.byContext patterns diff).result =
          (.ok chunks, journal) ∧ KeepsBudget c b chunks journal) ∨
        ∃ entry ∈ blocks, ∃ e journal, Budget.estimateFault? entry.2 = some e ∧
          (ofDiffWithin none b c.byContext patterns diff).result = (.error e, journal)) ∧
      (IsWhole diff.toList → ∃ chunks journal,
        (ofDiffWithin none b c.byContext patterns diff).result = (.ok chunks, journal)) := by
  obtain ⟨blocks, hblocks, hmem⟩ := Diff.withoutExcluded_of_compiles hpatterns
    (Diff.blocks (Budget.withoutTrivial diff))
  obtain ⟨built, events, hbuild, hresult⟩ := result_ofDiffWithin none c reviewer hblocks
  refine ⟨c.budget reviewer, blocks, c.ofEntries_entriesFor reviewer, hblocks, ?_⟩
  cases hbuild with
  | built _ _ =>
    exact ⟨.inl ⟨_, _, hresult, keepsBudget_of_result_eq hresult⟩, fun _ => ⟨_, _, hresult⟩⟩
  | unwritable hm he =>
    refine ⟨.inr ⟨_, hm, _, _, he, hresult⟩, fun hdiff => ?_⟩
    rw [(estimateFault?_eq_none_iff _).2 (isWhole_block hdiff (hmem _ hm))] at he
    exact absurd he (Option.some_ne_none _).symm
  | unreadable _ he => exact absurd he (startLineWithin_none _ _)

end

theorem compiles_md [StandIns] : Diff.Compiles "*.md" := by
  have hparts : Glob.Pathname.parts (Glob.unifySeparators "*.md".toList) =
      [.withinSegment, .char '.', .char 'm', .char 'd'] := by
    rw [show Glob.unifySeparators "*.md".toList = ['*', '.', 'm', 'd'] by decide]
    simp [Glob.Pathname.parts]
  refine ⟨.pieces [.withinSegment, .char '.', .char 'm', .char 'd'], ?_⟩
  rw [Glob.Pathname.compile, hparts]
  rfl

/-- Settings with room for two short files. -/
def tightContext : ContextSettings where
  tokenLimit := 12
  fileCap := 6
  overflow := .trim
  byContext := false

/-- Of four files the first is cut down to its cap, the second is left out, the third is taken as it
is, and the budget is exhausted at the fourth. -/
theorem ofDiffWithin_keeps_budget_tight :
    letI : StandIns := ⟨.besides []⟩
    let diff := "diff --git a/x b/x\n+one\n+two\ndiff --git a/n.md b/n.md\n+n\n" ++
      "diff --git a/y b/y\n+y\ndiff --git a/z b/z\n+z\n"
    (∀ p ∈ ["*.md"], Diff.Compiles p) ∧ ∃ b chunks journal,
      Budget.ofEntries (tightContext.entriesFor "mock") = .ok b ∧
        (ofDiffWithin none b tightContext.byContext ["*.md"] diff).result = (.ok chunks, journal) ∧
          KeepsBudget tightContext b chunks journal ∧
            chunks.map (·.diff) = ["diff --git a/x b/x\n+one\n", "diff --git a/y b/y\n+y\n"] ∧
              journal.map (·.name) = ["chunks.budget_exhausted", "chunks.built"] := by
  let _ : StandIns := ⟨.besides []⟩
  intro diff
  have hcompiles : ∀ p ∈ ["*.md"], Diff.Compiles p := fun p hp =>
    List.mem_singleton.1 hp ▸ compiles_md
  have hwhole : isAssigned diff.toList = true := by decide +kernel
  obtain ⟨b, _, hb, _, hkeeps, hok⟩ :=
    ofDiffWithin_keeps_budget tightContext "mock" hcompiles diff
  obtain rfl := Except.ok.inj ((tightContext.ofEntries_entriesFor "mock").symm.trans hb)
  obtain ⟨chunks, journal, hresult⟩ := hok (isWhole_of_isAssigned hwhole)
  have hrun : Prod.map (Except.map (List.map Chunk.diff)) (List.map Event.name)
      (ofDiffWithin none (tightContext.budget "mock") tightContext.byContext ["*.md"] diff).result =
        (.ok ["diff --git a/x b/x\n+one\n", "diff --git a/y b/y\n+y\n"],
          ["chunks.budget_exhausted", "chunks.built"]) := by decide +kernel
  rw [hresult] at hrun
  obtain ⟨hchunks, hjournal⟩ := Prod.mk.inj hrun
  refine ⟨hcompiles, _, chunks, journal, hb, hresult, ?_, Except.ok.inj hchunks, hjournal⟩
  rcases hkeeps with ⟨_, _, hresult', hkept⟩ | ⟨_, _, _, _, _, hfails⟩
  · obtain ⟨he, rfl⟩ := Prod.mk.inj (hresult.symm.trans hresult')
    obtain rfl := Except.ok.inj he
    exact hkept
  · exact absurd (Prod.mk.inj (hresult.symm.trans hfails)).1 (by simp)

/-! ### Blocks that cannot be written -/

/-- A file header that ends in a character. -/
def headerEndingIn (c : Char) : List Char := "diff --git a/x b/x".toList ++ [c]

section
variable [StandIns] {c : Char} {half : Nat}

theorem notMem_headerEndingIn (h : Surrogate.half? c = some half) {d : Char}
    (hd : isBlank d = true) (hheader : d ∉ "diff --git a/x b/x".toList) : d ∉ headerEndingIn c := by
  intro hm
  rcases List.mem_append.1 hm with hm | hm
  · exact hheader hm
  · rw [List.mem_singleton.1 hm, isBlank_of_half? h] at hd
    exact absurd hd (by decide)

theorem withoutTrivial_headerEndingIn (h : Surrogate.half? c = some half) :
    Budget.withoutTrivial (String.ofList (headerEndingIn c)) = String.ofList (headerEndingIn c) := by
  have hnewline := notMem_headerEndingIn h (d := '\n') (by decide) (by decide)
  have hkeep : [headerEndingIn c].filter (!Budget.isTrivial ·) = [headerEndingIn c] := rfl
  rw [Budget.withoutTrivial, String.toList_ofList, splitNewlines_of_notMem hnewline, hkeep,
    joinLines]

theorem sections_headerEndingIn (h : Surrogate.half? c = some half) :
    Diff.sections (headerEndingIn c) = [⟨['x', c], [headerEndingIn c]⟩] := by
  have hnewline := notMem_headerEndingIn h (d := '\n') (by decide) (by decide)
  have hreturn := notMem_headerEndingIn h (d := '\r') (by decide) (by decide)
  have htarget : Diff.fileTarget? (headerEndingIn c) = some ['x', c] := rfl
  rw [Diff.sections, splitLines_eq_splitNewlines _ hreturn, splitNewlines_of_notMem hnewline,
    Diff.cutSections_cons_of_some htarget]
  rfl

theorem splitLines_headerEndingIn (h : Surrogate.half? c = some half) :
    splitLines (headerEndingIn c ++ ['\n']) = [headerEndingIn c, []] := by
  have hline : IsLine (headerEndingIn c) := by
    refine ⟨notMem_headerEndingIn h (by decide) (by decide), fun hlast => ?_⟩
    exact notMem_headerEndingIn h (by decide) (by decide) (List.mem_of_getLast? hlast)
  exact splitLines_append_newline hline []

theorem ofDiffWithin_headerEndingIn (h : Surrogate.half? c = some half) (b : Budget)
    (byContext : Bool) :
    ∃ e journal, (ofDiffWithin none b byContext [] (String.ofList (headerEndingIn c))).result =
      (.error e, journal) := by
  have hblocks : Diff.keptBlocks [] (Budget.withoutTrivial (String.ofList (headerEndingIn c))) =
      .ok [("b/" ++ String.ofList ['x', c], String.ofList (headerEndingIn c ++ ['\n']))] := by
    have hend : trimEnd (headerEndingIn c) = headerEndingIn c :=
      trimEnd_of_last _ (isBlank_of_half? h)
    rw [withoutTrivial_headerEndingIn h, Diff.keptBlocks, Diff.blocks, String.toList_ofList,
      sections_headerEndingIn h, List.map_singleton, Diff.Section.block, joinLines, hend]
    rfl
  obtain ⟨e, he⟩ : ∃ e, Budget.estimateFault? (String.ofList (headerEndingIn c ++ ['\n'])) =
      some e := by
    rw [← Option.ne_none_iff_exists', ne_eq, estimateFault?_eq_none_iff, String.toList_ofList]
    intro hwhole
    have hm : c ∈ headerEndingIn c := List.mem_append_right _ (List.mem_singleton_self c)
    rw [hwhole c (List.mem_append_left _ hm)] at h
    exact absurd h (Option.some_ne_none _).symm
  have hstart : Diff.startLineWithin none (String.ofList (headerEndingIn c ++ ['\n'])) = .ok 0 := by
    rw [Diff.startLineWithin, Diff.firstStart?, String.toList_ofList, splitLines_headerEndingIn h]
    rfl
  refine ⟨e, [], ?_⟩
  rw [result_eq_run, run_ofDiffWithin hblocks, ofBlocks, run_bind, run_liftM,
    Outcome.mapError_eq_ok hstart]
  simp only [run_bind, run_fit_of_fault he]

end

/-- A block with half of a surrogate pair stops the review, whatever the settings. -/
theorem ofDiffWithin_half :
    letI : StandIns := ⟨.besides []⟩
    ∃ e journal, (ofDiffWithin none (ContextSettings.default.budget "mock") false []
      (String.ofList (headerEndingIn (Surrogate.standIn 0xD800)))).result = (.error e, journal) := by
  let _ : StandIns := ⟨.besides []⟩
  exact ofDiffWithin_headerEndingIn (Surrogate.half?_standIn (by decide)) _ _

end PatchReview.Chunk
