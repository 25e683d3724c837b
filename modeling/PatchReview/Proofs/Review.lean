import PatchReview.Proofs.Chunk.Excluded
import PatchReview.Proofs.Diff.Origin
import PatchReview.Proofs.Policy.Selection
import PatchReview.Proofs.Rule
import PatchReview.Review

/-! What can stop a review.

A review with the built-in reviewer comes to an end on every diff unless there is an obstacle
(`Obstacle`): a pattern for files that cannot be made ready, a number of a line that is too long to
be read or written, half of a surrogate pair, or a match in which a group ends before it starts.
Building chunks meets the first of these (`obstacle_of_chunks`), matching rules the last
(`obstacle_of_ruleFindings`), and publishing those that are left, since what is published is written
(`obstacle_of_selection`). -/
namespace PatchReview.Review

open Diff Logged Text

section
variable [StandIns]

/-- What can stop the review of a diff, and what the review fails with then. -/
inductive Obstacle (r : Review) (diff : String) : Failure → Prop where
  /-- A pattern for the files to leave out cannot be made ready. -/
  | pattern {p : String} {fault : Pattern.Fault} (hp : p ∈ r.settings.excludes)
      (hfault : Glob.Pathname.compile p = .error fault) : Obstacle r diff (patternFailure fault)
  /-- A hunk starts at a number with too many digits. -/
  | start {digits : List Char} (h : HasLongStart digitLimit (splitLines diff.toList) digits) :
      Obstacle r diff (.numeral (.tooLong digits.length))
  /-- The diff, or an enabled rule, holds half of a surrogate pair. -/
  | half {cause : Utf8.EncodeError}
      (h : ¬IsWhole diff.toList ∨ ∃ rule ∈ r.rules, rule.enabled = true ∧
        ¬(IsWhole rule.id.toList ∧ IsWhole rule.severity.toList)) :
      Obstacle r diff (.notEncodable cause)
  /-- Counting on from the start of a hunk gives a number with too many digits. -/
  | number {entry : String × List AddedLine} {line : AddedLine}
      (hentry : entry ∈ AddedLines.ofLines (splitLines diff.toList)) (hline : line ∈ entry.2)
      (hnumber : isWritable line.number = false) : Obstacle r diff (.numeral .unwritable)
  /-- A rule matches an added line with a group that ends before it starts. -/
  | crossed {rule : Rule} {entry : String × List AddedLine} {line : AddedLine}
      (hrule : rule ∈ r.rules) (henabled : rule.enabled = true)
      (hentry : entry ∈ AddedLines.ofLines (splitLines diff.toList)) (hline : line ∈ entry.2)
      (hcrossed : rule.finds line.content = .error .crossedGroup) : Obstacle r diff .crossedGroup

variable {r : Review} {diff : String}

/-! ### Chunks -/

theorem run_chunks (r : Review) (diff : String) :
    (r.chunks diff).result = run (Chunk.ofDiffWithin (some digitLimit)
      (r.settings.context.budget r.reviewer.name) r.settings.context.byContext r.settings.excludes
      diff) [] := rfl

/-- Building chunks stops only at a pattern, at a start of a hunk or at half of a surrogate pair. -/
theorem obstacle_of_chunks {e : Failure} {j : Journal}
    (h : (r.chunks diff).result = (.error e, j)) : Obstacle r diff e := by
  rw [run_chunks] at h
  cases hkept : keptBlocks r.settings.excludes (Budget.withoutTrivial diff) with
  | error cause =>
    rw [Chunk.run_ofDiffWithin_of_error hkept] at h
    obtain ⟨p, hp, fault, hfault, rfl⟩ := withoutExcluded_eq_error hkept
    obtain rfl := Except.error.inj (Prod.mk.inj h).1
    exact .pattern hp hfault
  | ok blocks =>
    obtain ⟨built, events, hbuild, hresult⟩ := Chunk.result_ofDiffWithin (some digitLimit)
      r.settings.context r.reviewer.name hkept
    have hmem : ∀ entry ∈ blocks, entry ∈ Diff.blocks (Budget.withoutTrivial diff) :=
      fun _ he => (sublist_of_withoutExcluded hkept).subset he
    rw [← result_eq_run, hresult] at h
    cases hbuild with
    | built _ _ => exact absurd (Prod.mk.inj h).1 (by simp)
    | unwritable hentry hfault =>
      obtain rfl := Except.error.inj (Prod.mk.inj h).1
      obtain ⟨cause, hcause, rfl⟩ := Option.map_eq_some_iff.1 hfault
      refine .half (.inl fun hwhole => ?_)
      rw [(encodeError?_eq_none_iff _).2 (Chunk.isWhole_block hwhole (hmem _ hentry))] at hcause
      exact absurd hcause (Option.some_ne_none cause).symm
    | unreadable hentry hstart =>
      obtain rfl := Except.error.inj (Prod.mk.inj h).1
      obtain ⟨digits, hlong, rfl⟩ := exists_hunk_of_block (hmem _ hentry) hstart
      exact .start hlong

/-- A chunk has its file and its first line from a block. -/
theorem exists_block_of_taken {limit : Option Nat} {b : Budget} {used : Nat} {blocks : Blocks}
    {chunks : List Chunk} {events : Journal} (h : Chunk.Taken limit b used blocks chunks events)
    {c : Chunk} (hc : c ∈ chunks) :
    ∃ block start, (c.file, block) ∈ blocks ∧ startLineWithin limit block = .ok start ∧
      c.startLine = if start = 0 then none else some (start : Int) := by
  induction h with
  | nil => exact absurd hc List.not_mem_nil
  | stop _ _ => exact absurd hc List.not_mem_nil
  | cons hstart _ _ _ _ _ ih =>
    rcases List.mem_cons.1 hc with rfl | hc
    · exact ⟨_, _, List.mem_cons_self, hstart, rfl⟩
    · obtain ⟨block, start, hm, hs⟩ := ih hc
      exact ⟨block, start, List.mem_cons_of_mem _ hm, hs⟩

/-- The files of chunks can be written if the diff can, and the first lines can in any case. -/
theorem writable_of_mem_chunks {chunks : List Chunk} {j : Journal}
    (h : (r.chunks diff).result = (.ok chunks, j)) {c : Chunk} (hc : c ∈ chunks) :
    (IsWhole diff.toList → IsWhole c.file.toList) ∧ isWritable c.line = true := by
  rw [run_chunks] at h
  cases hkept : keptBlocks r.settings.excludes (Budget.withoutTrivial diff) with
  | error cause =>
    rw [Chunk.run_ofDiffWithin_of_error hkept] at h
    exact absurd (Prod.mk.inj h).1 (by simp)
  | ok blocks =>
    obtain ⟨built, events, hbuild, hresult⟩ := Chunk.result_ofDiffWithin (some digitLimit)
      r.settings.context r.reviewer.name hkept
    rw [← result_eq_run, hresult] at h
    cases hbuild with
    | unwritable _ _ => exact absurd (Prod.mk.inj h).1 (by simp)
    | unreadable _ _ => exact absurd (Prod.mk.inj h).1 (by simp)
    | built htaken _ =>
      obtain rfl := Except.ok.inj (Prod.mk.inj h).1
      obtain ⟨block, start, hm, hstart, hline⟩ := exists_block_of_taken htaken hc
      have hblock := (sublist_of_withoutExcluded hkept).subset hm
      constructor
      · intro hwhole
        have hdiff : IsWhole (Budget.withoutTrivial diff).toList := by
          refine hwhole.of_mem fun d hd => (Chunk.mem_withoutTrivial hd).imp_right ?_
          rintro rfl
          decide
        exact isWhole_key_of_mem_blocks hdiff hblock
      · rw [Chunk.line, hline]
        split
        · exact isWritable_of_readNatural (show readNatural ['1'] = .ok 1 from rfl)
        · exact isWritable_of_startLine hstart

/-! ### Rules -/

/-- What the rules find in a file, and then in the others. -/
theorem ruleFindingsIn_cons (r : Review) (file : String) (lines : List AddedLine)
    (rest : AddedLines) :
    r.ruleFindingsIn ((file, lines) :: rest) = (do
      let out ← isExcluded r.settings.excludes file
      let found ←
        (if out then pure [] else Rule.findingsOfAll r.rules file lines : Outcome (List Finding))
      let more ← r.ruleFindingsIn rest
      return found ++ more) := by
  rw [ruleFindingsIn]
  refine bind_congr fun out => ?_
  cases out <;> rfl

/-- Matching rules with added lines stops only at a pattern or at a match. -/
theorem ruleFindingsIn_eq_error {files : AddedLines} {e : Failure}
    (h : r.ruleFindingsIn files = .error e) :
    (∃ p ∈ r.settings.excludes, ∃ fault, Glob.Pathname.compile p = .error fault ∧
      e = patternFailure fault) ∨
    (e = .crossedGroup ∧ ∃ entry ∈ files, ∃ rule ∈ r.rules, rule.enabled = true ∧
      ∃ line ∈ entry.2, rule.finds line.content = .error .crossedGroup) := by
  induction files with
  | nil => exact absurd h (by simp [ruleFindingsIn])
  | cons entry rest ih =>
    obtain ⟨file, lines⟩ := entry
    rw [ruleFindingsIn_cons] at h
    rcases Outcome.bind_eq_error_iff.1 h with hout | ⟨out, -, h⟩
    · exact .inl (anyExcludes_eq_error hout)
    · rcases Outcome.bind_eq_error_iff.1 h with hfound | ⟨found, -, h⟩
      · split at hfound
        · exact absurd hfound (by simp [pure, Except.pure])
        · obtain ⟨he, rule, hrule, henabled, hline⟩ := Rule.findingsOfAll_eq_error hfound
          exact .inr ⟨he, (file, lines), List.mem_cons_self, rule, hrule, henabled, hline⟩
      · rcases Outcome.bind_eq_error_iff.1 h with hrest | ⟨more, -, h⟩
        · rcases ih hrest with hpattern | ⟨he, entry, hentry, hrule⟩
          · exact .inl hpattern
          · exact .inr ⟨he, entry, List.mem_cons_of_mem _ hentry, hrule⟩
        · exact absurd h (by simp [pure, Except.pure])

/-- A finding of the rules is one of an enabled rule in an added line. -/
theorem exists_of_mem_ruleFindingsIn {files : AddedLines} {found : List Finding}
    (h : r.ruleFindingsIn files = .ok found) {f : Finding} (hf : f ∈ found) :
    ∃ entry ∈ files, ∃ rule ∈ r.rules, rule.enabled = true ∧
      ∃ line ∈ entry.2, f = rule.finding entry.1 line := by
  induction files generalizing found with
  | nil =>
    obtain rfl := Except.ok.inj h
    exact absurd hf List.not_mem_nil
  | cons entry rest ih =>
    obtain ⟨file, lines⟩ := entry
    rw [ruleFindingsIn_cons] at h
    obtain ⟨out, -, h⟩ := Outcome.bind_eq_ok_iff.1 h
    obtain ⟨here, hhere, h⟩ := Outcome.bind_eq_ok_iff.1 h
    obtain ⟨more, hmore, h⟩ := Outcome.bind_eq_ok_iff.1 h
    obtain rfl := Except.ok.inj h
    rcases List.mem_append.1 hf with hf | hf
    · split at hhere
      · obtain rfl := Except.ok.inj hhere
        exact absurd hf List.not_mem_nil
      · exact ⟨(file, lines), List.mem_cons_self, Rule.exists_of_mem_findingsOfAll hhere hf⟩
    · obtain ⟨entry, hentry, hrule⟩ := ih hmore hf
      exact ⟨entry, List.mem_cons_of_mem _ hentry, hrule⟩

/-- Matching rules stops only at a pattern, at a start of a hunk or at a match. -/
theorem obstacle_of_ruleFindings {e : Failure} (h : r.ruleFindings diff = .error e) :
    Obstacle r diff e := by
  rcases Outcome.bind_eq_error_iff.1 h with hadded | ⟨files, hadded, h⟩
  · cases hdiff : AddedLines.ofDiff diff with
    | ok files => exact absurd (hdiff ▸ hadded) (by simp [Except.mapError])
    | error cause =>
      obtain ⟨digits, hlong, rfl⟩ := AddedLines.exists_long_of_ofDiff hdiff
      rw [hdiff] at hadded
      obtain rfl := Except.error.inj hadded
      exact .start hlong
  · cases hdiff : AddedLines.ofDiff diff with
    | error cause => exact absurd (hdiff ▸ hadded) (by simp [Except.mapError])
    | ok added =>
      rw [hdiff] at hadded
      obtain rfl := Except.ok.inj hadded
      obtain rfl := AddedLines.ofDiff_eq_ok hdiff
      rcases ruleFindingsIn_eq_error h with ⟨p, hp, fault, hfault, rfl⟩ |
        ⟨rfl, entry, hentry, rule, hrule, henabled, line, hline, hcrossed⟩
      · exact .pattern hp hfault
      · exact .crossed hrule henabled hentry hline hcrossed

/-- The files and lines in which a rule finds something are added lines of the diff. -/
theorem exists_of_mem_ruleFindings {found : List Finding} (h : r.ruleFindings diff = .ok found)
    {f : Finding} (hf : f ∈ found) :
    ∃ entry ∈ AddedLines.ofLines (splitLines diff.toList), ∃ rule ∈ r.rules, rule.enabled = true ∧
      ∃ line ∈ entry.2, f = rule.finding entry.1 line := by
  obtain ⟨files, hadded, h⟩ := Outcome.bind_eq_ok_iff.1 h
  cases hdiff : AddedLines.ofDiff diff with
  | error cause => exact absurd (hdiff ▸ hadded) (by simp [Except.mapError])
  | ok added =>
    rw [hdiff] at hadded
    obtain rfl := Except.ok.inj hadded
    obtain rfl := AddedLines.ofDiff_eq_ok hdiff
    exact exists_of_mem_ruleFindingsIn h hf

/-! ### Publishing -/

theorem isWhole_plain_int (i : Int) : IsWhole (Value.int i).plain.toList := by
  have hrepr : (Value.int i).plain = i.repr := rfl
  rw [hrepr]
  intro c hc
  rcases isDigit_of_mem_intRepr hc with rfl | hdigit
  · exact half?_of_lt (by decide)
  · exact half?_of_lt (Nat.lt_trans (toNat_lt_of_charIsDigit hdigit) (by decide))

theorem hasWholeTexts_of_texts {f : Finding}
    (h : ∀ s ∈ [f.file, f.ruleId, f.content, f.severity, f.title], IsWhole s.toList) :
    f.HasWholeTexts := by
  have hstart : IsWhole f.startText.toList := isWhole_plain_int f.startLine
  have hend : IsWhole f.endText.toList := isWhole_plain_int f.endLine
  intro s hs
  simp only [List.mem_cons, List.not_mem_nil, or_false] at hs h
  rcases hs with rfl | rfl | rfl | rfl | rfl | rfl | rfl
  · exact h _ (by simp)
  · exact hstart
  · exact hend
  · exact h _ (by simp)
  · exact h _ (by simp)
  · exact h _ (by simp)
  · exact h _ (by simp)

theorem hasWholeTexts_note {c : Chunk} (h : IsWhole c.file.toList) :
    (Reviewer.note c).HasWholeTexts := by
  refine hasWholeTexts_of_texts fun s hs => ?_
  simp only [Reviewer.note, List.mem_cons, List.not_mem_nil, or_false] at hs
  rcases hs with rfl | rfl | rfl | rfl | rfl
  · exact h
  · exact isWhole_of_isAssigned (by decide)
  · exact isWhole_of_isAssigned (by decide)
  · exact isWhole_of_isAssigned (by decide)
  · exact isWhole_of_isAssigned (by decide)

/-- What a rule finds can be written if the rule and the diff can. -/
theorem hasWholeTexts_of_mem_ruleFindings {found : List Finding}
    (hfound : r.ruleFindings diff = .ok found) (hdiff : IsWhole diff.toList)
    (hrules : ∀ rule ∈ r.rules, rule.enabled = true →
      IsWhole rule.id.toList ∧ IsWhole rule.severity.toList)
    {f : Finding} (hf : f ∈ found) : f.HasWholeTexts := by
  obtain ⟨entry, hentry, rule, hrule, henabled, line, hline, rfl⟩ :=
    exists_of_mem_ruleFindings hfound hf
  have ⟨hfile, hcontents⟩ := AddedLines.isWhole_of_mem_ofLines hdiff hentry
  have ⟨hid, hseverity⟩ := hrules rule hrule henabled
  refine hasWholeTexts_of_texts fun s hs => ?_
  simp only [Rule.finding, List.mem_cons, List.not_mem_nil, or_false] at hs
  rcases hs with rfl | rfl | rfl | rfl | rfl
  · exact hfile
  · exact hid
  · exact hcontents line hline
  · exact hseverity
  · exact hid

/-- Publishing what was found stops only at half of a surrogate pair or at the number of a line. -/
theorem obstacle_of_selection {chunks : List Chunk} {j : Journal} {found reviewed : List Finding}
    {e : Failure} (hchunks : (r.chunks diff).result = (.ok chunks, j))
    (hfound : r.ruleFindings diff = .ok found)
    (hreviewed : ∀ f ∈ reviewed, f.IsWritable ∨ ∃ c ∈ chunks, f = Reviewer.note c)
    (h : r.settings.policy.selection (found ++ reviewed) = .error e) : Obstacle r diff e := by
  rcases r.settings.policy.unblocked_or_error (found ++ reviewed) with hfree | ⟨cause, he, hblocked⟩
  · rw [r.settings.policy.selection_of_unblocked hfree] at h
    exact absurd h (by simp)
  · obtain rfl := Except.error.inj (he.symm.trans h)
    rcases hblocked.cause with ⟨half, rfl, f, hf, htexts⟩ | ⟨rfl, f, hf, hlines⟩
    · refine .half (or_iff_not_imp_left.2 fun hdiff => ?_)
      rw [not_not] at hdiff
      by_contra hnone
      have hrules : ∀ rule ∈ r.rules, rule.enabled = true →
          IsWhole rule.id.toList ∧ IsWhole rule.severity.toList := by
        intro rule hrule henabled
        by_contra hrest
        exact hnone ⟨rule, hrule, henabled, hrest⟩
      rcases List.mem_append.1 hf with hf | hf
      · exact htexts (hasWholeTexts_of_mem_ruleFindings hfound hdiff hrules hf)
      · rcases hreviewed f hf with hwritable | ⟨c, hc, rfl⟩
        · exact htexts hwritable.texts
        · exact htexts (hasWholeTexts_note ((writable_of_mem_chunks hchunks hc).1 hdiff))
    · rcases List.mem_append.1 hf with hf | hf
      · obtain ⟨entry, hentry, rule, -, -, line, hline, rfl⟩ := exists_of_mem_ruleFindings hfound hf
        refine .number hentry hline (Bool.eq_false_iff.2 fun hnumber => hlines ?_)
        exact ⟨hnumber, hnumber⟩
      · rcases hreviewed f hf with hwritable | ⟨c, hc, rfl⟩
        · exact absurd ⟨hwritable.startLine, hwritable.endLine⟩ hlines
        · have hline := (writable_of_mem_chunks hchunks hc).2
          exact absurd ⟨hline, hline⟩ hlines

/-! ### The whole review -/

/-- With the findings of the reviewer, rules and policy decide. -/
theorem run_findings {chunks : List Chunk} {j : Journal} {reviewed : List Finding}
    (hchunks : (r.chunks diff).result = (.ok chunks, j))
    (hreviewed : r.reviewer.review chunks = .ok reviewed) :
    (r.findings diff).result =
      match r.ruleFindings diff >>= fun found =>
        (r.settings.policy.selection (found ++ reviewed)).map (found, ·) with
      | .ok (found, published) => (.ok published,
          j ++ [.reviewCompleted chunks.length (found ++ reviewed).length published.length])
      | .error e => (.error e, j) := by
  rw [result_eq_run] at hchunks ⊢
  have hreviewer : run (r.reviewerFindings chunks) j = (.ok reviewed, j) := by
    rw [reviewerFindings, hreviewed]
    rfl
  rw [findings, run_bind, hchunks]
  simp only [run_bind, hreviewer, run_liftM]
  cases hfound : r.ruleFindings diff with
  | error e => rfl
  | ok found =>
    simp only [bind, Except.bind]
    cases hselected : r.settings.policy.selection (found ++ reviewed) with
    | error e => rfl
    | ok published => rfl

omit [StandIns] in
theorem review_eq_ok {chunks : List Chunk} {reviewed : List Finding} {j j' : Journal}
    (h : run (r.reviewerFindings chunks) j = (.ok reviewed, j')) :
    r.reviewer.review chunks = .ok reviewed := by
  rw [reviewerFindings] at h
  cases hreview : r.reviewer.review chunks with
  | ok found =>
    rw [hreview] at h
    cases h
    rfl
  | error e =>
    rw [hreview] at h
    cases e <;> cases h

/-- A review that comes to an end has had chunks, and the findings of the rules and of the
reviewer. -/
theorem exists_of_findings {published : List Finding} {j : Journal}
    (h : (r.findings diff).result = (.ok published, j)) :
    ∃ chunks j' found reviewed, (r.chunks diff).result = (.ok chunks, j') ∧
      r.reviewer.review chunks = .ok reviewed ∧ r.ruleFindings diff = .ok found ∧
      r.settings.policy.selection (found ++ reviewed) = .ok published := by
  rw [result_eq_run, findings] at h
  obtain ⟨chunks, j', hchunks, h⟩ := run_bind_eq_ok_iff.1 h
  obtain ⟨reviewed, _, hreviewed, h⟩ := run_bind_eq_ok_iff.1 h
  obtain ⟨found, hfound, h⟩ := run_liftM_bind_eq_ok_iff.1 h
  obtain ⟨selected, hselected, h⟩ := run_liftM_bind_eq_ok_iff.1 h
  obtain ⟨_, last, -, h⟩ := run_bind_eq_ok_iff.1 h
  rw [run_pure] at h
  obtain rfl := Except.ok.inj (Prod.mk.inj h).1
  exact ⟨chunks, j', found, reviewed, hchunks, review_eq_ok hreviewed, hfound, hselected⟩

/-- Findings that can be handed out: each is described by its table, and can be written. -/
def CanHandOut (responses : Option (List Value)) : Prop :=
  ∀ items ∈ responses, ∃ found, items.mapM Finding.ofValue = .ok found ∧ ∀ f ∈ found, f.IsWritable

theorem exists_reviewed {responses : Option (List Value)} (hresponses : CanHandOut responses)
    (chunks : List Chunk) :
    ∃ reviewed, (Reviewer.builtIn responses).review chunks = .ok reviewed ∧
      ∀ f ∈ reviewed, f.IsWritable ∨ ∃ c ∈ chunks, f = Reviewer.note c := by
  cases responses with
  | some items =>
    obtain ⟨found, hfound, hwritable⟩ := hresponses items rfl
    exact ⟨found, hfound, fun f hf => .inl (hwritable f hf)⟩
  | none =>
    refine ⟨_, rfl, fun f hf => .inr ?_⟩
    cases chunks with
    | nil => exact absurd hf List.not_mem_nil
    | cons c rest => exact ⟨c, List.mem_cons_self, List.mem_singleton.1 hf⟩

/-- Publishing stops where building chunks or matching rules does, or at what was found. -/
theorem obstacle_of_findings {responses : Option (List Value)}
    (hreviewer : r.reviewer = .builtIn responses) (hresponses : CanHandOut responses) {e : Failure}
    {j : Journal} (h : (r.findings diff).result = (.error e, j)) : Obstacle r diff e := by
  rcases hresult : (r.chunks diff).result with ⟨result, j'⟩
  cases result with
  | error cause =>
    rw [result_eq_run] at hresult
    rw [result_eq_run, findings, run_bind, hresult] at h
    obtain rfl := Except.error.inj (Prod.mk.inj h).1
    exact obstacle_of_chunks hresult
  | ok chunks =>
    obtain ⟨reviewed, hreviewed, hmembers⟩ := exists_reviewed hresponses chunks
    rw [← hreviewer] at hreviewed
    rw [run_findings hresult hreviewed] at h
    cases hfound : r.ruleFindings diff with
    | error cause =>
      rw [hfound] at h
      obtain rfl := Except.error.inj (Prod.mk.inj h).1
      exact obstacle_of_ruleFindings hfound
    | ok found =>
      cases hselected : r.settings.policy.selection (found ++ reviewed) with
      | error cause =>
        simp only [hfound, hselected, bind, Except.bind, Except.map] at h
        obtain rfl := Except.error.inj (Prod.mk.inj h).1
        exact obstacle_of_selection hresult hfound hmembers hselected
      | ok published =>
        simp only [hfound, hselected, bind, Except.bind, Except.map] at h
        exact absurd (Prod.mk.inj h).1 (by simp)

/-- A review with the built-in reviewer stops only at an obstacle, and then with the failure that
goes with it, whatever it is asked for. Without an obstacle there are chunks, findings of the rules
and published findings. -/
theorem stops_only_at_obstacles (r : Review) {responses : Option (List Value)}
    (hreviewer : r.reviewer = .builtIn responses) (hresponses : CanHandOut responses)
    (diff : String) :
    (∀ e j, (r.chunks diff).result = (.error e, j) → Obstacle r diff e) ∧
      (∀ e, r.ruleFindings diff = .error e → Obstacle r diff e) ∧
      (∀ e j, (r.findings diff).result = (.error e, j) → Obstacle r diff e) ∧
      ((∀ e, ¬Obstacle r diff e) →
        (∃ chunks j, (r.chunks diff).result = (.ok chunks, j)) ∧
        (∃ found, r.ruleFindings diff = .ok found) ∧
        ∃ published j, (r.findings diff).result = (.ok published, j)) := by
  refine ⟨fun _ _ => obstacle_of_chunks, fun _ => obstacle_of_ruleFindings,
    fun _ _ => obstacle_of_findings hreviewer hresponses, fun hnone => ⟨?_, ?_, ?_⟩⟩
  · exact exists_ok_of_not_error (fun _ _ => obstacle_of_chunks) hnone
  · cases hfound : r.ruleFindings diff with
    | error e => exact absurd (obstacle_of_ruleFindings hfound) (hnone e)
    | ok found => exact ⟨found, rfl⟩
  · exact exists_ok_of_not_error (fun _ _ => obstacle_of_findings hreviewer hresponses) hnone

end

/-- A review without rules and with one pattern that can be made ready, of a diff with one file. -/
theorem stops_only_at_obstacles_docs :
    letI : StandIns := ⟨.besides []⟩
    let r : Review := ⟨{ Settings.default none with excludes := ["docs/"] }, .builtIn none, []⟩
    r.reviewer = .builtIn none ∧ CanHandOut none ∧ (∀ e, ¬Obstacle r "diff --git a/x b/x\n" e) ∧
      ∃ published j, (r.findings "diff --git a/x b/x\n").result = (.ok published, j) := by
  let _ : StandIns := ⟨.besides []⟩
  intro r
  have hresponses : CanHandOut none := fun _ h => absurd h (Option.not_mem_none _)
  have hnone : ∀ e, ¬Obstacle r "diff --git a/x b/x\n" e := by
    intro e h
    cases h with
    | pattern hp hfault =>
      rw [List.mem_singleton.1 hp] at hfault
      obtain ⟨compiled, hcompiled⟩ := Chunk.compiles_docs
      exact absurd (hcompiled.symm.trans hfault) (by simp)
    | start h =>
      obtain ⟨line, hline, hhunk⟩ := h.exists_hunk
      have hplain : ∀ l ∈ splitLines "diff --git a/x b/x\n".toList, hunkStart? l = none := by decide
      exact absurd ((hplain line hline).symm.trans hhunk) (Option.some_ne_none _).symm
    | half h =>
      rcases h with hdiff | ⟨rule, hrule, -⟩
      · exact hdiff (isWhole_of_isAssigned (by decide))
      · exact absurd hrule List.not_mem_nil
    | number hentry _ _ => exact absurd hentry List.not_mem_nil
    | crossed hrule _ _ _ _ => exact absurd hrule List.not_mem_nil
  have h := stops_only_at_obstacles r rfl hresponses "diff --git a/x b/x\n"
  exact ⟨rfl, hresponses, hnone, (h.2.2.2 hnone).2.2⟩

end PatchReview.Review
