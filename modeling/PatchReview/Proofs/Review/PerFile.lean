import PatchReview.Proofs.Diff.Exclusion
import PatchReview.Proofs.Policy.Quotas
import PatchReview.Proofs.Review

/-! How many findings a review publishes about one file.

The quota of a file goes by the name in a finding. Rules name a file by its path, a reviewer by its
block, which has `b/` in front, so both have a quota of their own: what is published is a part for
the rules and a part for the reviewer (`exists_parts`), each of which keeps to the limit on a file.
Together they keep to it too unless both find something in the file, and more than the limit
(`file_limit_by_name`). -/
namespace PatchReview

open Diff Logged Text

namespace Review

/-- How many of some findings name a file. -/
def countFile (file : String) (findings : List Finding) : Nat := (findings.map (·.file)).count file

theorem countFile_append (file : String) (a b : List Finding) :
    countFile file (a ++ b) = countFile file a + countFile file b := by
  rw [countFile, List.map_append, List.count_append]
  rfl

end Review

section
variable [StandIns]

/-! ### Findings that only the limit on a file keeps back -/

/-- Nothing but the limit on a file keeps any of some findings from being published. -/
structure PolicySettings.OnlyFileLimit (p : PolicySettings) (findings : List Finding) : Prop where
  isSevere : ∀ f ∈ findings, p.isSevere f = true
  nodup_digests : (findings.map FindingOf.digest).Nodup
  length_le : (findings.length : Int) ≤ p.maxComments
  count_severity_le : ∀ severity,
    ((findings.map PolicySettings.severityKey).count severity : Int) ≤ p.limitOf severity

namespace PolicySettings

variable {p : PolicySettings}

theorem OnlyFileLimit.of_append {before after : List Finding}
    (h : p.OnlyFileLimit (before ++ after)) : p.OnlyFileLimit before := by
  refine ⟨fun f hf => h.isSevere f (List.mem_append_left _ hf), ?_, ?_, fun severity => ?_⟩
  · have hnodup := h.nodup_digests
    rw [List.map_append] at hnodup
    exact (List.nodup_append.1 hnodup).1
  · have hlength := h.length_le
    rw [List.length_append] at hlength
    omega
  · have hcount := h.count_severity_le severity
    rw [List.map_append, List.count_append] at hcount
    omega

/-- Then findings of a file are published up to the limit. -/
theorem OnlyFileLimit.count_emitted {findings : List Finding} (h : p.OnlyFileLimit findings)
    (file : String) : ((p.emitted findings).map (·.file)).count file =
      min p.maxPerFile.toNat ((findings.map (·.file)).count file) := by
  have hsub := p.passed_sublist findings
  have hall : p.emitted findings = (p.passed findings).map p.published := by
    refine p.publish_eq_map (fun f hf => h.isSevere f (hsub.subset hf)) ?_ ?_
    · exact h.nodup_digests.sublist (hsub.map FindingOf.digest)
    · have hlength := h.length_le
      have hpassed := hsub.length_le
      omega
  have hfiles : ((p.passed findings).map p.published).map (·.file) =
      (p.passed findings).map (·.file) := by
    rw [List.map_map]
    rfl
  rw [hall, hfiles, p.count_file_passed h.count_severity_le]

end PolicySettings

namespace Review

open PolicySettings (PublishedAs)

variable {r : Review} {diff : String}

/-! ### The parts of what is published -/

theorem countFile_le_of_picked {picked all out : List Finding} (hsub : picked.Sublist all)
    (hpicked : List.Forall₂ PublishedAs picked out) (file : String) :
    countFile file out ≤ countFile file all := by
  rw [countFile, PolicySettings.map_file_eq hpicked]
  exact (hsub.map (·.file)).count_le file

/-- What is published is a part for what the rules find, which is the same without a reviewer, and
behind it a part for what the reviewer finds. -/
structure Parts (r : Review) (diff : String) (published : List Finding)
    (found reviewed byRules byReviewer : List Finding) : Prop where
  found_eq : r.ruleFindings diff = .ok found
  reviewed_eq : ∃ chunks j, (r.chunks diff).result = (.ok chunks, j) ∧
    r.reviewer.review chunks = .ok reviewed
  published_eq : r.settings.policy.selection (found ++ reviewed) = .ok published
  byRules_eq : r.settings.policy.selection found = .ok byRules
  ofReviewer : ∃ picked, picked.Sublist reviewed ∧ List.Forall₂ PublishedAs picked byReviewer
  append_eq : published = byRules ++ byReviewer

/-- The parts of what a review publishes. -/
theorem exists_parts (hconsolidate : r.settings.policy.consolidate = false)
    {published : List Finding} {j : Journal}
    (h : (r.findings diff).result = (.ok published, j)) :
    ∃ found reviewed byRules byReviewer,
      Parts r diff published found reviewed byRules byReviewer := by
  obtain ⟨chunks, j', found, reviewed, hchunks, hreviewed, hfound, hselected⟩ :=
    exists_of_findings h
  obtain ⟨more, picked, hrules, hsub, hpicked, rfl⟩ :=
    PolicySettings.exists_selection_append hconsolidate hselected
  exact ⟨found, reviewed, _, more, hfound, ⟨chunks, j', hchunks, hreviewed⟩, hselected, hrules,
    ⟨picked, hsub, hpicked⟩, rfl⟩

/-! ### The limit on a file -/

/-- The most findings of a file that there may be. -/
def fileLimit (r : Review) : Int := max 0 r.settings.policy.maxPerFile

/-- Whether one limit on a file is enough for what the rules and the reviewer find in it. -/
def FitsTogether (r : Review) (path : String) (found reviewed : List Finding) : Prop :=
  r.fileLimit = 0 ∨ countFile path found = 0 ∨ countFile (withSide path) reviewed = 0 ∨
    (countFile path found + countFile (withSide path) reviewed : Int) ≤ r.fileLimit

theorem sound_of_selection (hconsolidate : r.settings.policy.consolidate = false)
    {all out : List Finding} (h : r.settings.policy.selection all = .ok out) :
    r.settings.policy.Sound all out := by
  obtain ⟨hpublishable, rfl⟩ := (PolicySettings.selection_eq_ok_iff hconsolidate).1 h
  exact r.settings.policy.sound_emitted hpublishable

/-- However much there is to publish, no more than the limit is, for any file. -/
theorem countFile_le_fileLimit (hconsolidate : r.settings.policy.consolidate = false)
    {all out : List Finding} (h : r.settings.policy.selection all = .ok out) (file : String) :
    (countFile file out : Int) ≤ r.fileLimit :=
  (sound_of_selection hconsolidate h).count_file_le file

/-- If nothing else keeps findings back, findings of a file are published up to the limit. -/
theorem countFile_eq_min (hconsolidate : r.settings.policy.consolidate = false)
    {all out : List Finding} (h : r.settings.policy.selection all = .ok out)
    (honly : r.settings.policy.OnlyFileLimit all) (file : String) :
    (countFile file out : Int) = min r.fileLimit (countFile file all) := by
  obtain ⟨-, rfl⟩ := (PolicySettings.selection_eq_ok_iff hconsolidate).1 h
  have hcount := honly.count_emitted file
  rw [countFile, hcount, fileLimit, countFile]
  omega

namespace Parts

variable {published found reviewed byRules byReviewer : List Finding}

theorem countFile_published (h : Parts r diff published found reviewed byRules byReviewer)
    (file : String) :
    countFile file published = countFile file byRules + countFile file byReviewer := by
  rw [h.append_eq, countFile_append]

theorem countFile_byReviewer_le (h : Parts r diff published found reviewed byRules byReviewer)
    (file : String) : countFile file byReviewer ≤ countFile file reviewed := by
  obtain ⟨picked, hsub, hpicked⟩ := h.ofReviewer
  exact countFile_le_of_picked hsub hpicked file

theorem le_of_fitsTogether (h : Parts r diff published found reviewed byRules byReviewer)
    (hconsolidate : r.settings.policy.consolidate = false) {path : String}
    (hfits : r.FitsTogether path found reviewed) :
    (countFile path byRules + countFile (withSide path) byReviewer : Int) ≤ r.fileLimit := by
  have hrules := countFile_le_fileLimit hconsolidate h.byRules_eq path
  have hreviewer := countFile_le_fileLimit hconsolidate h.published_eq (withSide path)
  rw [h.countFile_published] at hreviewer
  have hfound : countFile path byRules ≤ countFile path found := by
    obtain ⟨picked, hsub, hpicked⟩ := (sound_of_selection hconsolidate h.byRules_eq).picked
    exact countFile_le_of_picked hsub hpicked path
  have hreviewed := h.countFile_byReviewer_le (withSide path)
  rcases hfits with hlimit | hnone | hnone | hsum <;> omega

/-- Where nothing else keeps findings back, each part uses up its own limit. -/
theorem lt_of_not_fitsTogether (h : Parts r diff published found reviewed byRules byReviewer)
    (hconsolidate : r.settings.policy.consolidate = false) {path : String}
    (honly : r.settings.policy.OnlyFileLimit (found ++ reviewed))
    (hside : countFile (withSide path) found = 0) (hfits : ¬r.FitsTogether path found reviewed) :
    r.fileLimit < countFile path byRules + countFile (withSide path) byReviewer := by
  have hrules := countFile_eq_min hconsolidate h.byRules_eq honly.of_append
  have hboth := countFile_eq_min hconsolidate h.published_eq honly (withSide path)
  rw [h.countFile_published, countFile_append, hside] at hboth
  have hpath := hrules path
  have hother := hrules (withSide path)
  rw [hside] at hother
  have hpos : 0 ≤ r.fileLimit := Int.le_max_left _ _
  simp only [FitsTogether, not_or] at hfits
  omega

end Parts

/-- **The limit on a file.** Without consolidation, what the rules find in a file and what the
reviewer finds in it each keep to the limit, as they name the file differently. Both together keep
to it where one limit is enough for them, and exceed it otherwise if nothing else keeps findings
back and the rules find nothing in a file that has the reviewer's name for this one as its path. -/
theorem file_limit_by_name (hconsolidate : r.settings.policy.consolidate = false)
    {published : List Finding} {j : Journal} (h : (r.findings diff).result = (.ok published, j)) :
    ∃ found reviewed byRules byReviewer,
      Parts r diff published found reviewed byRules byReviewer ∧
      ∀ path,
        (countFile path byRules : Int) ≤ r.fileLimit ∧
        (countFile (withSide path) byReviewer : Int) ≤ r.fileLimit ∧
        (r.FitsTogether path found reviewed →
          (countFile path byRules + countFile (withSide path) byReviewer : Int) ≤ r.fileLimit) ∧
        (r.settings.policy.OnlyFileLimit (found ++ reviewed) →
          countFile (withSide path) found = 0 → ¬r.FitsTogether path found reviewed →
          r.fileLimit < countFile path byRules + countFile (withSide path) byReviewer) := by
  obtain ⟨found, reviewed, byRules, byReviewer, hparts⟩ := exists_parts hconsolidate h
  refine ⟨found, reviewed, byRules, byReviewer, hparts, fun path => ⟨?_, ?_, ?_, ?_⟩⟩
  · exact countFile_le_fileLimit hconsolidate hparts.byRules_eq path
  · have hle := countFile_le_fileLimit hconsolidate hparts.published_eq (withSide path)
    rw [hparts.append_eq, countFile_append] at hle
    omega
  · exact hparts.le_of_fitsTogether hconsolidate
  · exact hparts.lt_of_not_fitsTogether hconsolidate

end Review

end

namespace Review

/-- A rule that every line with characters breaks. -/
def anyLine : Rule := ⟨"R", ".", .ofSequence false [.any false], "info", "", "", [], true⟩

/-- A review with that rule and the built-in reviewer, to publish one finding of a file. -/
def onePerFile [StandIns] : Review where
  settings :=
    { Settings.default none with policy := { PolicySettings.default with maxPerFile := 1 } }
  reviewer := .builtIn none
  rules := [anyLine]

/-- A diff with one added line. -/
def addedX : String := "diff --git a/f b/f\n--- a/f\n+++ b/f\n@@ -0,0 +1 @@\n+x\n"

/-- The rule and the reviewer each find something in the file, and both findings are published. -/
theorem file_limit_by_name_two :
    letI : StandIns := ⟨.besides []⟩
    onePerFile.settings.policy.consolidate = false ∧ onePerFile.fileLimit = 1 ∧
      ∃ published j, (onePerFile.findings addedX).result = (.ok published, j) ∧
        ∃ found reviewed byRules byReviewer,
          Parts onePerFile addedX published found reviewed byRules byReviewer ∧
          1 < countFile "f" byRules + countFile "b/f" byReviewer := by
  let _ : StandIns := ⟨.besides []⟩
  let chunk : Chunk := ⟨"b/f", addedX, some 1⟩
  let found := [anyLine.finding "f" ⟨1, "x"⟩]
  let reviewed := [Reviewer.note chunk]
  obtain ⟨j, hchunks⟩ : ∃ j, (onePerFile.chunks addedX).result = (.ok [chunk], j) := by
    have hresult : (onePerFile.chunks addedX).result.1 = .ok [chunk] := by decide +kernel
    rw [← hresult]
    exact ⟨_, (Prod.eta _).symm⟩
  have hfound : onePerFile.ruleFindings addedX = .ok found := by rfl
  have hreviewed : onePerFile.reviewer.review [chunk] = .ok reviewed := rfl
  obtain ⟨published, hselected⟩ : ∃ published,
      onePerFile.settings.policy.selection (found ++ reviewed) = .ok published :=
    ⟨_, (PolicySettings.selection_eq_ok_iff rfl).2 ⟨by decide +kernel, rfl⟩⟩
  have hrun := run_findings hchunks hreviewed
  simp only [hfound, hselected, bind, Except.bind, Except.map] at hrun
  have honly : onePerFile.settings.policy.OnlyFileLimit (found ++ reviewed) := by
    refine ⟨by decide +kernel, by decide +kernel, by decide, fun severity => ?_⟩
    have hlimit : onePerFile.settings.policy.limitOf severity = PolicySettings.unlimited := rfl
    rw [hlimit]
    exact Int.le_trans (Int.ofNat_le.2 List.count_le_length) (by decide)
  have hfits : ¬onePerFile.FitsTogether "f" found reviewed := by
    rw [FitsTogether]
    decide
  obtain ⟨found', reviewed', byRules, byReviewer, hparts, hfile⟩ := file_limit_by_name rfl hrun
  obtain rfl := Except.ok.inj (hfound.symm.trans hparts.found_eq)
  obtain ⟨chunks', j', hchunks', hreviewed'⟩ := hparts.reviewed_eq
  obtain rfl := Except.ok.inj (Prod.mk.inj (hchunks.symm.trans hchunks')).1
  obtain rfl := Except.ok.inj (hreviewed.symm.trans hreviewed')
  have hlt := (hfile "f").2.2.2 honly (by decide) hfits
  refine ⟨rfl, rfl, published, _, hrun, found, reviewed, byRules, byReviewer, hparts, ?_⟩
  exact Int.ofNat_lt.1 hlt

end Review

end PatchReview
