import PatchReview.Proofs.Outcome
import PatchReview.Proofs.Policy.Consolidation
import PatchReview.Proofs.Policy.Publication
import PatchReview.Proofs.Policy.Quotas

/-! Which findings are published, and why the others are not.

The published findings are picked from all findings, in their order, and keep to every limit
(`Sound`). Whoever is not picked has a reason for it among the findings before (`Dropped`,
`Complete`), so that a smaller limit on all findings only cuts off the end. The selection fails at a
finding that has to be told apart from others and cannot be written, and never otherwise
(`selection_sound_and_complete`). Without consolidation, what is selected of some findings does not
depend on those behind them (`exists_selection_append`). -/
namespace PatchReview.PolicySettings

open Text

section
variable {ν : Type} (p : PolicySettings)

/-- The same settings with another limit on all findings. -/
def withMaxComments (m : Int) : PolicySettings := { p with maxComments := m }

theorem withinQuotas_withMaxComments (m : Int) (usage : Usage) (findings : List (FindingOf ν)) :
    (p.withMaxComments m).withinQuotas usage findings = p.withinQuotas usage findings := by
  induction findings generalizing usage with
  | nil => rfl
  | cons f rest ih =>
    have hroom : (p.withMaxComments m).hasRoom usage f = p.hasRoom usage f := rfl
    simp only [withinQuotas, hroom, ih]

variable [StandIns] [LineMark ν]

/-- The findings that are published of some, which are consolidated already. -/
def emitted (findings : List (FindingOf ν)) : List (FindingOf ν) :=
  p.publish p.maxComments.toNat [] (p.passed findings)

/-- The published findings are picked in order, and keep to the limits. -/
structure Sound (findings out : List (FindingOf ν)) : Prop where
  picked : ∃ picked, picked.Sublist findings ∧ List.Forall₂ PublishedAs picked out
  length_le : (out.length : Int) ≤ max 0 p.maxComments
  count_file_le : ∀ file, ((out.map (·.file)).count file : Int) ≤ max 0 p.maxPerFile
  count_severity_le : ∀ severity,
    ((out.map severityKey).count severity : Int) ≤ max 0 (p.limitOf severity)
  rank_le : ∀ g ∈ out, severityRank p.leastSeverity ≤ severityRank g.severity
  nodup_fingerprints : (out.map (·.fingerprint)).Nodup

/-- Why a finding is not published behind those before it. -/
inductive Dropped (before : List (FindingOf ν)) (f : FindingOf ν) : Prop where
  | rank (h : severityRank f.severity < severityRank p.leastSeverity)
  | repetition {digest : String} (hdigest : f.fingerprinted = .ok digest)
      (h : some digest ∈ (p.emitted before).map (·.fingerprint))
  | fileQuota (h : max 0 p.maxPerFile ≤ (((p.passed before).map (·.file)).count f.file : Int))
  | severityQuota (h : max 0 (p.limitOf (severityKey f)) ≤
      (((p.passed before).map severityKey).count (severityKey f) : Int))
  | limit (h : ((p.emitted before).length : Int) = max 0 p.maxComments)

/-- Every finding is published right behind those that are published of the ones before it, or there
is a reason for it not to be. -/
def Complete (findings out : List (FindingOf ν)) : Prop :=
  ∀ before f after, findings = before ++ f :: after → p.emitted before <+: out ∧
    (p.Dropped before f ∨ ∃ g, PublishedAs f g ∧ p.emitted before ++ [g] <+: out)

/-! ### Whoever is published -/

theorem map_file_eq {picked out : List (FindingOf ν)} (h : List.Forall₂ PublishedAs picked out) :
    out.map (·.file) = picked.map (·.file) := by
  induction h with
  | nil => rfl
  | cons hfg _ ih => rw [List.map_cons, List.map_cons, hfg.file_eq, ih]

theorem map_severityKey_eq {picked out : List (FindingOf ν)}
    (h : List.Forall₂ PublishedAs picked out) :
    out.map severityKey = picked.map severityKey := by
  induction h with
  | nil => rfl
  | cons hfg _ ih =>
    rw [List.map_cons, List.map_cons, severityKey, hfg.severity_eq, ih]
    rfl

theorem sound_emitted {findings : List (FindingOf ν)}
    (h : p.publishFault? p.maxComments.toNat (p.passed findings) = none) :
    p.Sound findings (p.emitted findings) := by
  obtain ⟨picked, hsub, hpicked⟩ := p.exists_picked h
  have hlength := p.length_publish_le p.maxComments.toNat (p.passed findings)
  refine ⟨⟨picked, hsub.trans (p.passed_sublist findings), hpicked⟩, ?_, fun file => ?_,
    fun severity => ?_, fun g hg => ?_, p.nodup_fingerprints_publish _ _⟩
  · rw [emitted]
    omega
  · have hpassed := p.count_passed_le (·.file) (fun _ => p.maxPerFile)
      (fun _ _ hroom => hroom.file_lt) findings file
    have hcount := (hsub.map (·.file)).count_le file
    rw [emitted, map_file_eq hpicked]
    omega
  · have hpassed := p.count_passed_le severityKey p.limitOf
      (fun _ _ hroom => hroom.severity_lt) findings severity
    have hcount := (hsub.map severityKey).count_le severity
    rw [emitted, map_severityKey_eq hpicked]
    omega
  · exact of_decide_eq_true (p.isSevere_publish _ _ g hg)

/-! ### Whoever is not -/

theorem emitted_prefix_append (before after : List (FindingOf ν)) :
    p.emitted before <+: p.emitted (before ++ after) := by
  obtain ⟨more, hmore⟩ := p.passed_prefix_append before after
  rw [emitted, emitted, ← hmore]
  exact p.publish_prefix_append _ _ _

theorem dropped_of_not_room {before : List (FindingOf ν)} {f : FindingOf ν}
    (h : ¬p.Room (p.passed before) f) : p.Dropped before f := by
  by_cases hfile : (((p.passed before).map (·.file)).count f.file : Int) < p.maxPerFile
  · refine .severityQuota ?_
    by_contra hlt
    refine h ⟨hfile, ?_⟩
    omega
  · refine .fileQuota ?_
    omega

/-- A finding that has passed is published next, or there is a reason. -/
theorem dropped_of_not_next {before : List (FindingOf ν)} {f : FindingOf ν}
    (hfault : p.isSevere f = true → (p.emitted before).length < p.maxComments.toNat →
      f.digestFault? = none)
    (h : ¬p.Next p.maxComments.toNat [] (p.passed before) f) : p.Dropped before f := by
  by_cases hsevere : p.isSevere f = true
  · have hle : (p.emitted before).length ≤ p.maxComments.toNat := p.length_publish_le _ _
    by_cases hlt : (p.emitted before).length < p.maxComments.toNat
    · refine .repetition (fingerprinted_eq_ok (hfault hsevere hlt)) ?_
      by_contra hnot
      exact h ⟨hsevere, List.not_mem_nil, hnot, hlt⟩
    · refine .limit ?_
      omega
  · refine .rank (Nat.lt_of_not_le fun hle => hsevere ?_)
    exact decide_eq_true hle

theorem complete_emitted {findings : List (FindingOf ν)}
    (h : p.publishFault? p.maxComments.toNat (p.passed findings) = none) :
    p.Complete findings (p.emitted findings) := by
  rintro before f after rfl
  refine ⟨p.emitted_prefix_append before (f :: after), ?_⟩
  by_cases hroom : p.Room (p.passed before) f
  · -- The finding has passed, so what is published up to it is known.
    have hpassed := p.passed_concat_of_room hroom
    have hstep : p.emitted (before ++ [f]) <+: p.emitted (before ++ f :: after) := by
      have hmore := p.emitted_prefix_append (before ++ [f]) after
      rwa [List.append_assoc] at hmore
    have hfault : p.publishFault? p.maxComments.toNat (p.passed before ++ [f]) = none := by
      obtain ⟨more, hmore⟩ := p.passed_prefix_append (before ++ [f]) after
      rw [List.append_cons, ← hmore, hpassed] at h
      exact p.publishFault?_of_append h
    have hdigest := ((p.publishFault?_concat_eq_none).1 hfault).2
    by_cases hnext : p.Next p.maxComments.toNat [] (p.passed before) f
    · refine .inr ⟨p.published f, p.publishedAs_published
        (hdigest hnext.isSevere hnext.length_lt), ?_⟩
      rwa [emitted, hpassed, p.publish_concat hnext] at hstep
    · exact .inl (p.dropped_of_not_next hdigest hnext)
  · exact .inl (p.dropped_of_not_room hroom)

/-! ### Whether there is a selection -/

/-- What the selection fails with: findings are to be consolidated and one cannot be compared with
others, or one has passed the quotas, is severe enough and has no fingerprint. -/
def Blocked (findings : List (FindingOf ν)) (e : Failure) : Prop :=
  (p.consolidate = true ∧ ∃ f ∈ findings, ∃ cause,
    Utf8.encodeError? (Consolidation.signatureText f).toList = some cause ∧
      e = .notEncodable cause) ∨
  (0 < p.maxComments ∧ ∃ f ∈ p.passed (p.consolidated findings),
    severityRank p.leastSeverity ≤ severityRank f.severity ∧ f.fingerprinted = .error e)

/-- Nothing keeps some findings from being consolidated and told apart. -/
structure Unblocked (findings : List (FindingOf ν)) : Prop where
  comparable : p.consolidate = true → Consolidation.fault? findings = none
  publishable :
    p.publishFault? p.maxComments.toNat (p.passed (p.consolidated findings)) = none

theorem selection_of_unblocked {findings : List (FindingOf ν)} (h : p.Unblocked findings) :
    p.selection findings = .ok (p.emitted (p.consolidated findings)) := by
  have hcomparable : (if p.consolidate = true then Consolidation.fault? findings else none) =
      none := by
    split
    · exact h.comparable ‹_›
    · rfl
  have hpublishable := h.publishable
  rw [passed] at hpublishable
  simp only [selection, hcomparable, hpublishable]
  rfl

theorem unblocked_or_error (findings : List (FindingOf ν)) :
    p.Unblocked findings ∨ ∃ e, p.selection findings = .error e ∧ p.Blocked findings e := by
  cases hfault : (if p.consolidate = true then Consolidation.fault? findings else none) with
  | some e =>
    refine .inr ⟨e, by simp only [selection, hfault], .inl ?_⟩
    split at hfault
    · rename_i hconsolidate
      obtain ⟨cause, hcause, rfl⟩ := Option.map_eq_some_iff.1 hfault
      obtain ⟨f, hf, he⟩ := List.exists_of_findSome?_eq_some hcause
      exact ⟨hconsolidate, f, hf, cause, he, rfl⟩
    · exact absurd hfault (Option.some_ne_none e).symm
  | none =>
    cases hpublish : p.publishFault? p.maxComments.toNat (p.passed (p.consolidated findings)) with
    | some e =>
      have hpassed := hpublish
      rw [passed] at hpassed
      refine .inr ⟨e, by simp only [selection, hfault, hpassed], .inr ?_⟩
      obtain ⟨f, hf, hsevere, he, hroom⟩ := p.exists_of_publishFault? hpublish
      refine ⟨by omega, f, hf, of_decide_eq_true hsevere, ?_⟩
      rw [FindingOf.fingerprinted, he]
    | none =>
      refine .inl ⟨fun hconsolidate => ?_, hpublish⟩
      rwa [if_pos hconsolidate] at hfault

variable {p} in
theorem selection_eq_ok_iff (hconsolidate : p.consolidate = false)
    {findings out : List (FindingOf ν)} :
    p.selection findings = .ok out ↔
      p.publishFault? p.maxComments.toNat (p.passed findings) = none ∧
        out = p.emitted findings := by
  have hsame : p.consolidated findings = findings := by
    rw [consolidated, hconsolidate]
    rfl
  constructor
  · intro h
    rcases p.unblocked_or_error findings with hfree | ⟨e, he, -⟩
    · have hselection := p.selection_of_unblocked hfree
      rw [hsame] at hselection
      exact ⟨hsame ▸ hfree.publishable, Except.ok.inj (h.symm.trans hselection)⟩
    · exact absurd (he.symm.trans h) (by simp)
  · rintro ⟨hpublishable, rfl⟩
    have hfree : p.Unblocked findings :=
      ⟨fun h => absurd (hconsolidate.symm.trans h) Bool.false_ne_true, hsame.symm ▸ hpublishable⟩
    rw [p.selection_of_unblocked hfree, hsame]

variable {p} in
/-- What is published of more findings is what is published of the first ones, and behind it some
that are picked from the others. -/
theorem exists_selection_append (hconsolidate : p.consolidate = false)
    {before after out : List (FindingOf ν)} (h : p.selection (before ++ after) = .ok out) :
    ∃ more picked, p.selection before = .ok (p.emitted before) ∧ picked.Sublist after ∧
      List.Forall₂ PublishedAs picked more ∧ out = p.emitted before ++ more := by
  obtain ⟨hpublishable, hout⟩ := (selection_eq_ok_iff hconsolidate).1 h
  obtain ⟨rest, hrest, hpassed⟩ := p.exists_passed_append before after
  rw [hpassed] at hpublishable
  obtain ⟨picked, more, hsub, hpicked, hpublish⟩ := p.exists_picked_append _ hpublishable
  have hbefore : p.selection before = .ok (p.emitted before) :=
    (selection_eq_ok_iff hconsolidate).2 ⟨p.publishFault?_of_append hpublishable, rfl⟩
  refine ⟨more, picked, hbefore, hsub.trans hrest, hpicked, ?_⟩
  rw [hout, emitted, hpassed, hpublish]
  rfl

/-- A selection that fails does so for a finding that cannot be written. -/
theorem Blocked.cause {p : PolicySettings} {findings : List (FindingOf ν)} {e : Failure}
    (h : p.Blocked findings e) :
    (∃ cause, e = .notEncodable cause ∧ ∃ f ∈ findings, ¬f.HasWholeTexts) ∨
      (e = .numeral .unwritable ∧ ∃ f ∈ findings, ¬f.HasWritableLines) := by
  rcases h with ⟨-, f, hf, cause, hcause, rfl⟩ | ⟨-, f, hf, -, hprint⟩
  · refine .inl ⟨cause, rfl, f, hf, fun htexts => ?_⟩
    rw [(encodeError?_eq_none_iff _).2 htexts.isWhole_signatureText] at hcause
    exact absurd hcause (Option.some_ne_none cause).symm
  · have hmem : f ∈ p.consolidated findings := (p.passed_sublist _).subset hf
    have hfault : f.digestFault? = some e := by
      unfold FindingOf.fingerprinted at hprint
      split at hprint
      · rename_i cause hcause
        rw [hcause, Except.error.inj hprint]
      · exact absurd hprint (by simp)
    -- What is wrong with a finding that stands for others is wrong with one of them.
    rcases FindingOf.cause_of_digestFault? hfault with ⟨cause, he, htexts⟩ | ⟨he, hlines⟩
    · refine .inl ⟨cause, he, ?_⟩
      by_contra hnone
      simp only [not_exists, not_and, not_not] at hnone
      unfold consolidated at hmem
      split at hmem
      · exact htexts (Consolidation.hasWholeTexts_consolidate hnone f hmem)
      · exact htexts (hnone f hmem)
    · refine .inr ⟨he, ?_⟩
      by_contra hnone
      simp only [not_exists, not_and, not_not] at hnone
      unfold consolidated at hmem
      split at hmem
      · exact hlines (Consolidation.hasWritableLines_consolidate hnone f hmem)
      · exact hlines (hnone f hmem)

/-- Findings that can be written are no obstacle. -/
theorem unblocked_of_isWritable {findings : List (FindingOf ν)}
    (h : ∀ f ∈ findings, f.IsWritable) : p.Unblocked findings := by
  rcases p.unblocked_or_error findings with hunblocked | ⟨e, -, hblocked⟩
  · exact hunblocked
  · rcases hblocked.cause with ⟨_, -, f, hf, htexts⟩ | ⟨-, f, hf, hlines⟩
    · exact absurd (h f hf).texts htexts
    · exact absurd ⟨(h f hf).startLine, (h f hf).endLine⟩ hlines

theorem publish_withMaxComments (m : Int) (room : Nat) (seen : List String)
    (findings : List (FindingOf ν)) :
    (p.withMaxComments m).publish room seen findings = p.publish room seen findings := by
  induction findings generalizing room seen with
  | nil => rw [publish_nil, publish_nil]
  | cons f rest ih =>
    have hsevere : (p.withMaxComments m).isSevere f = p.isSevere f := rfl
    have hpublished : (p.withMaxComments m).published f = p.published f := rfl
    cases room with
    | zero => rw [publish_zero, publish_zero]
    | succ room => simp only [publish, hsevere, hpublished, ih]

theorem publishFault?_withMaxComments (m : Int) (room : Nat) (findings : List (FindingOf ν)) :
    (p.withMaxComments m).publishFault? room findings = p.publishFault? room findings := by
  have hsevere : (p.withMaxComments m).isSevere = fun f : FindingOf ν => p.isSevere f := rfl
  simp only [publishFault?, publish_withMaxComments, hsevere]

/-- With a smaller limit on all findings the first ones are published. -/
theorem selection_prefix_of_le {findings : List (FindingOf ν)} (h : p.Unblocked findings) {m : Int}
    (hm : m ≤ p.maxComments) :
    ∃ out, (p.withMaxComments m).selection findings = .ok out ∧
      out <+: p.emitted (p.consolidated findings) := by
  have hroom : m.toNat ≤ p.maxComments.toNat := Int.toNat_le_toNat hm
  have hpassed : (p.withMaxComments m).passed ((p.withMaxComments m).consolidated findings) =
      p.passed (p.consolidated findings) := p.withinQuotas_withMaxComments m _ _
  have hunblocked : (p.withMaxComments m).Unblocked findings := by
    refine ⟨h.comparable, ?_⟩
    rw [hpassed, publishFault?_withMaxComments]
    exact p.publishFault?_of_le hroom h.publishable
  refine ⟨_, (p.withMaxComments m).selection_of_unblocked hunblocked, ?_⟩
  rw [emitted, hpassed, publish_withMaxComments, emitted]
  have htake := p.publish_eq_take hroom (p.passed (p.consolidated findings))
  exact htake ▸ List.take_prefix m.toNat _

/-- What is published has lines that can be written: they are in its fingerprint. -/
theorem PublishedAs.hasWritableLines {f g : FindingOf ν} (h : PublishedAs f g) :
    g.HasWritableLines := by
  obtain ⟨digest, hdigest, -⟩ := h.fingerprint_eq
  have hlines : f.HasWritableLines := by
    by_contra hlines
    rw [FindingOf.HasWritableLines, ← Bool.and_eq_true] at hlines
    rw [FindingOf.fingerprinted, FindingOf.digestFault?, if_neg hlines] at hdigest
    exact absurd hdigest (by simp)
  rwa [← h.rest_eq] at hlines

variable {p} in
theorem hasWritableLines_of_selection {findings out : List (FindingOf ν)}
    (h : p.selection findings = .ok out) : ∀ g ∈ out, g.HasWritableLines := by
  intro g hg
  rcases p.unblocked_or_error findings with hfree | ⟨e, he, -⟩
  · obtain rfl := Except.ok.inj ((p.selection_of_unblocked hfree).symm.trans h)
    obtain ⟨picked, -, hpicked⟩ := (p.sound_emitted hfree.publishable).picked
    obtain ⟨f, -, hpublished⟩ := Outcome.exists_of_forall₂ hpicked hg
    exact hpublished.hasWritableLines
  · exact absurd (he.symm.trans h) (by simp)

/-- **Selection.** Whatever the settings and the findings: what is published keeps to all limits,
every finding that is missing has a reason to, and a smaller limit on all findings only cuts off the
end. There is no selection only if a finding that matters has no fingerprint, or cannot be compared
with others; findings that can be written always have one. -/
theorem selection_sound_and_complete (findings : List (FindingOf ν)) :
    (match p.selection findings with
      | .ok out =>
        p.Sound (p.consolidated findings) out ∧ p.Complete (p.consolidated findings) out ∧
          ∀ m ≤ p.maxComments, ∃ less, (p.withMaxComments m).selection findings = .ok less ∧
            less <+: out
      | .error e => p.Blocked findings e) ∧
      ((∀ f ∈ findings, f.IsWritable) → ∃ out, p.selection findings = .ok out) := by
  constructor
  · rcases p.unblocked_or_error findings with h | ⟨e, he, hblocked⟩
    · rw [p.selection_of_unblocked h]
      exact ⟨p.sound_emitted h.publishable, p.complete_emitted h.publishable,
        fun m hm => p.selection_prefix_of_le h hm⟩
    · rw [he]
      exact hblocked
  · exact fun h => ⟨_, p.selection_of_unblocked (p.unblocked_of_isWritable h)⟩

/-! ### Titles that cannot be written -/

theorem exists_error_of_title (hconsolidate : p.consolidate = true) {findings : List (FindingOf ν)}
    {f : FindingOf ν} (hf : f ∈ findings) {c : Char} {half : Nat}
    (hc : c ∈ f.title.toList.take Consolidation.titleLength)
    (hhalf : Surrogate.half? c = some half) : ∃ e, p.selection findings = .error e := by
  rcases p.unblocked_or_error findings with h | ⟨e, he, -⟩
  · have hwhole := (Consolidation.fault?_eq_none_iff findings).1 (h.comparable hconsolidate) f hf c
      (Consolidation.mem_signatureText hc)
    exact absurd (hhalf.symm.trans hwhole) (Option.some_ne_none half)
  · exact ⟨e, he⟩

end

/-- A finding whose title is half of a surrogate pair cannot be compared with others, even where
nothing is to be published. -/
theorem selection_half :
    letI : StandIns := ⟨.besides []⟩
    ∃ e, { PolicySettings.default with maxComments := 0, consolidate := true }.selection
      [(⟨"", String.ofList [Surrogate.standIn 0xD800], "info", "", 1, 1, "", "", "", none, none⟩ :
        Finding)] = .error e := by
  let _ : StandIns := ⟨.besides []⟩
  have hhalf : Surrogate.half? (Surrogate.standIn 0xD800) = some 0xD800 :=
    Surrogate.half?_standIn (by decide)
  refine exists_error_of_title _ rfl (List.mem_singleton_self _) ?_ hhalf
  simp only [String.toList_ofList]
  exact List.mem_singleton_self _

end PatchReview.PolicySettings
