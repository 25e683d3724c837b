import Mathlib.Algebra.GroupWithZero.Nat
import Mathlib.Data.List.Basic
import Mathlib.Data.List.Forall2
import PatchReview.Proofs.Keyed
import PatchReview.Proofs.Policy.Selection
import PatchReview.Proofs.Text.Order
import PatchReview.Report.Markdown

/-! What a Markdown report says of its findings.

The report is made of two tables of the same findings. One counts them by severity, and its rows
stand in the order of `Above` (`isTable_severityTable`). The other has them by file, files in the
order of their names (`isByFile_fileSections`). Both leave out nothing and have nothing twice
(`markdownReport_partitions`). -/
namespace PatchReview.Report

open Text

variable {ν : Type}

/-! ### Findings by severity -/

/-- The severities that have a place of their own, in falling order. -/
def knownSeverities : List String := ["critical", "major", "minor", "info"]

theorem severityPlace_lt_iff (s : String) :
    severityPlace s < knownSeverities.length ↔ s ∈ knownSeverities :=
  List.idxOf_lt_length_iff

/-- What comes first in a list and what comes later are two of its elements in order. -/
theorem sublist_of_idxOf_lt {l : List String} {a b : String} (hb : b ∈ l)
    (h : l.idxOf a < l.idxOf b) : [a, b].Sublist l := by
  induction l with
  | nil => exact absurd hb List.not_mem_nil
  | cons c l ih =>
    have hcb : c ≠ b := by
      intro he
      simp [he] at h
    have hbl : b ∈ l := (List.mem_cons.1 hb).resolve_left (Ne.symm hcb)
    by_cases hca : c = a
    · rw [hca]
      exact (List.singleton_sublist.2 hbl).cons_cons a
    · rw [List.idxOf_cons_ne l hca, List.idxOf_cons_ne l hcb] at h
      exact (ih hbl (Nat.lt_of_succ_lt_succ h)).cons c

section
variable [StandIns]

/-- Which of two severities has its row above the other one's: known ones stand in their own order
and above all others, which stand in the order of texts. -/
inductive Above : String → String → Prop where
  | known {a b : String} (h : [a, b].Sublist knownSeverities) : Above a b
  | known_other {a b : String} (ha : a ∈ knownSeverities) (hb : b ∉ knownSeverities) : Above a b
  | other {a b : String} (ha : a ∉ knownSeverities) (hb : b ∉ knownSeverities)
      (h : Precedes a b) : Above a b

/-- Rows that count some findings by severity, whatever the case of its letters. -/
structure IsTable (findings : List (FindingOf ν)) (rows : List (String × Nat)) : Prop where
  severities : ∀ s, s ∈ rows.map (·.1) ↔ ∃ f ∈ findings, lower f.severity = s
  distinct : (rows.map (·.1)).Nodup
  ordered : (rows.map (·.1)).Pairwise Above
  counts : ∀ row ∈ rows, row.2 = findings.countP (lower ·.severity = row.1)
  total : (rows.map (·.2)).sum = findings.length

theorem severityBefore_total (a b : String) :
    (severityBefore a b || severityBefore b a) = true := by
  have h := inOrder_total a b
  simp only [severityBefore, Bool.or_eq_true, Bool.and_eq_true, decide_eq_true_eq, beq_iff_eq] at *
  rcases Nat.lt_trichotomy (severityPlace a) (severityPlace b) with hlt | heq | hgt
  · exact .inl (.inl hlt)
  · exact h.imp (fun h => .inr ⟨heq, h⟩) (fun h => .inr ⟨heq.symm, h⟩)
  · exact .inr (.inl hgt)

theorem severityBefore_trans (a b c : String) (hab : severityBefore a b = true)
    (hbc : severityBefore b c = true) : severityBefore a c = true := by
  simp only [severityBefore, Bool.or_eq_true, Bool.and_eq_true, decide_eq_true_eq, beq_iff_eq] at *
  rcases hab with hab | ⟨hab, horder⟩
  · omega
  · rcases hbc with hbc | ⟨hbc, horder'⟩
    · omega
    · exact .inr ⟨hab.trans hbc, inOrder_trans horder horder'⟩

theorem above_of_severityBefore {a b : String} (h : severityBefore a b = true) (hne : a ≠ b) :
    Above a b := by
  have ha := severityPlace_lt_iff a
  have hb := severityPlace_lt_iff b
  simp only [severityBefore, Bool.or_eq_true, Bool.and_eq_true, decide_eq_true_eq, beq_iff_eq] at h
  by_cases hbk : b ∈ knownSeverities
  · have hplace : severityPlace a < severityPlace b := by
      refine h.resolve_right fun ⟨hsame, _⟩ => hne ?_
      exact (List.idxOf_inj (ha.1 (hsame ▸ hb.2 hbk))).1 hsame
    exact .known (sublist_of_idxOf_lt hbk hplace)
  · by_cases hak : a ∈ knownSeverities
    · exact .known_other hak hbk
    · refine .other hak hbk (precedes_of_inOrder ?_ hne)
      have hle : severityPlace b ≤ knownSeverities.length := List.idxOf_le_length
      rcases h with hlt | ⟨-, horder⟩
      · exact absurd (ha.1 (by omega)) hak
      · exact horder

theorem isTable_severityTable (findings : List (FindingOf ν)) :
    IsTable findings (severityTable findings) := by
  have hperm : (severityTable findings).Perm (severityCounts findings) := List.mergeSort_perm _ _
  have hkeys := Keyed.nodup_keys_tally (fun f : FindingOf ν => lower f.severity) Keyed.countOn
    findings
  have hordered := Keyed.pairwise_keys_mergeSort _ severityBefore_trans severityBefore_total
    hkeys
  refine ⟨fun s => ?_, ?_, ?_, fun row hrow => ?_, ?_⟩
  · rw [(hperm.map _).mem_iff]
    exact Keyed.mem_keys_tally _ _
  · exact (hperm.map _).nodup_iff.2 hkeys
  · exact hordered.imp fun h => above_of_severityBefore h.1 h.2
  · rw [List.countP_eq_length_filter]
    refine Keyed.eq_of_mem_tally List.length (fun _ => rfl) (fun a l _ => ?_)
      (hperm.mem_iff.1 hrow)
    simp
  · rw [(hperm.map _).sum_nat]
    exact Keyed.sum_tally _ _

/-! ### Findings by file -/

/-- What stands in the report for a text: the text itself, or something else if it is empty. -/
inductive StandsFor (text other : String) : String → Prop where
  | text (h : text ≠ "") : StandsFor text other text
  | other (h : text = "") : StandsFor text other other

/-- The file that a finding is in; those of no file are in one of their own. -/
def InFile (f : FindingOf ν) (file : String) : Prop := StandsFor f.file "unknown" file

omit [StandIns] in
theorem standsFor_iff {text other shown : String} :
    StandsFor text other shown ↔ (if text.isEmpty then other else text) = shown := by
  constructor
  · rintro (h | h)
    · rw [if_neg (mt String.isEmpty_iff.1 h)]
    · rw [if_pos (String.isEmpty_iff.2 h)]
  · rintro rfl
    split
    · next h => exact .other (String.isEmpty_iff.1 h)
    · next h => exact .text (mt String.isEmpty_iff.2 h)

omit [StandIns] in
theorem inFile_iff {f : FindingOf ν} {file : String} : InFile f file ↔ fileName f = file :=
  standsFor_iff

/-- Sections that have some findings by file, in the order of the findings. -/
structure IsByFile (findings : List (FindingOf ν)) (sections : List (String × List (FindingOf ν))) :
    Prop where
  files : ∀ file, file ∈ sections.map (·.1) ↔ ∃ f ∈ findings, InFile f file
  ordered : (sections.map (·.1)).Pairwise Precedes
  members : ∀ s ∈ sections, ∀ f ∈ s.2, InFile f s.1
  inOrder : ∀ s ∈ sections, s.2.Sublist findings
  once : (sections.flatMap (·.2)).Perm findings

theorem isByFile_fileSections (findings : List (FindingOf ν)) :
    IsByFile findings (fileSections findings) := by
  have hperm : (fileSections findings).Perm (Keyed.tally fileName Keyed.addTo findings) :=
    List.mergeSort_perm _ _
  have hordered := Keyed.pairwise_keys_mergeSort inOrder (fun _ _ _ => inOrder_trans) inOrder_total
    (Keyed.nodup_keys_tally fileName Keyed.addTo findings)
  have hmembers : ∀ s ∈ fileSections findings, s.2 = findings.filter (fileName · = s.1) :=
    fun s hs => Keyed.eq_of_mem_tally id (fun _ => rfl) (fun _ _ _ => rfl) (hperm.mem_iff.1 hs)
  refine ⟨fun file => ?_, ?_, fun s hs f hf => ?_, fun s hs => ?_, ?_⟩
  · simp only [(hperm.map _).mem_iff, inFile_iff]
    exact Keyed.mem_keys_tally _ _
  · exact hordered.imp fun h => precedes_of_inOrder h.1 h.2
  · rw [hmembers s hs, List.mem_filter] at hf
    exact inFile_iff.2 (of_decide_eq_true hf.2)
  · exact hmembers s hs ▸ List.filter_sublist
  · exact (hperm.flatMap_right _).trans (Keyed.flatMap_tally_perm _ _)

/-! ### The lines of a report -/

/-- The sign in front of a severity. -/
inductive IsSign (severity : String) : String → Prop where
  | critical (h : lower severity = "critical") : IsSign severity "🔴"
  | major (h : lower severity = "major") : IsSign severity "🟠"
  | minor (h : lower severity = "minor") : IsSign severity "🟡"
  | info (h : lower severity = "info") : IsSign severity "🔵"
  | other (h : lower severity ∉ knownSeverities) : IsSign severity "⚪"

/-- Lines that are there unless a text is empty. -/
inductive LinesFor (text : String) (lines : List String) : List String → Prop where
  | there (h : text ≠ "") : LinesFor text lines lines
  | gone (h : text = "") : LinesFor text lines []

/-- The line about how often a finding was seen, which is not there for none and for zero. -/
inductive ShowsCount (occurrences : Option Value) : List String → Prop where
  | there {n : Value} (h : occurrences = some n) (hfilled : n.isFilled = true) :
      ShowsCount occurrences ["- **Occurrences:** " ++ n.plain]
  | gone (h : ∀ n, occurrences = some n → n.isFilled = false) : ShowsCount occurrences []

/-- The line about when the report was made. -/
inductive ShowsTime : Option String → List String → Prop where
  | there {time : String} :
      ShowsTime (some time) ["## 📋 Metadata", "", "- **Generated:** " ++ time]
  | gone : ShowsTime none []

/-- A row of the table. -/
inductive ShowsRow : String × Nat → String → Prop where
  | mk {severity sign : String} {count : Nat} (hsign : IsSign severity sign) :
      ShowsRow (severity, count) s!"- {sign} **{severity}**: {count}"

variable [LineMark ν]

/-- The lines about a finding: a heading, where it is and how severe, then what else is known. -/
inductive ShowsFinding (f : FindingOf ν) : List String → Prop where
  | mk {sign title : String} {rule count rationale suggestion : List String}
      (hsign : IsSign f.severity sign) (htitle : StandsFor f.title f.ruleId title)
      (hrule : LinesFor f.ruleId ["- **Rule:** \x60" ++ f.ruleId ++ "\x60"] rule)
      (hcount : ShowsCount f.occurrences count)
      (hrationale : LinesFor f.rationale ["**Rationale:** " ++ f.rationale, ""] rationale)
      (hsuggestion : LinesFor f.suggestion ["**Suggestion:** " ++ f.suggestion, ""] suggestion) :
      ShowsFinding f
        ([s!"#### {sign} {title}", "", s!"- **Line:** {(LineMark.value f.startLine).plain}",
          s!"- **Severity:** {f.severity}"] ++ rule ++ count ++ [""] ++ rationale ++ suggestion ++
          ["---", ""])

/-- The lines about a file: a heading, then the lines about its findings, one after the other. -/
inductive ShowsSection : String × List (FindingOf ν) → List String → Prop where
  | mk {file : String} {members : List (FindingOf ν)} {blocks : List (List String)}
      (hblocks : List.Forall₂ ShowsFinding members blocks) :
      ShowsSection (file, members) (["### 📄 \x60" ++ file ++ "\x60", ""] ++ blocks.flatten)

/-- A report on some findings: how many there are, a table of their severities, and the findings by
file. -/
inductive IsReport (generated : Option String) (findings : List (FindingOf ν)) : String → Prop where
  | mk {rows : List (String × Nat)} {sections : List (String × List (FindingOf ν))}
      {table time : List String} {blocks : List (List String)}
      (htable : IsTable findings rows) (hrows : List.Forall₂ ShowsRow rows table)
      (hbyFile : IsByFile findings sections) (hblocks : List.Forall₂ ShowsSection sections blocks)
      (htime : ShowsTime generated time) :
      IsReport generated findings
        ("\n".intercalate (["# 🔍 Code Review Results", "", "## 📊 Summary", "",
          s!"**Total Issues:** {findings.length}", "", "### By Severity", ""] ++ table ++
          ["", "## 🚨 Issues Found", ""] ++ blocks.flatten ++ time) ++ "\n")

omit [StandIns] [LineMark ν] in
theorem isSign_severitySign (severity : String) : IsSign severity (severitySign severity) := by
  rw [severitySign]
  generalize hlower : lower severity = s
  by_cases hs : s ∈ knownSeverities
  · simp only [knownSeverities, List.mem_cons, List.not_mem_nil, or_false] at hs
    rcases hs with rfl | rfl | rfl | rfl
    · exact .critical hlower
    · exact .major hlower
    · exact .minor hlower
    · exact .info hlower
  · have hnone : severitySigns.lookup s = none := by
      rw [List.lookup_eq_none_iff]
      intro p hp
      exact bne_iff_ne.2 fun he => hs (he ▸ List.mem_map_of_mem (f := (·.1)) hp)
    rw [hnone]
    exact .other (hlower ▸ hs)

omit [StandIns] [LineMark ν] in
theorem linesFor_linesIf (text : String) (lines : List String) :
    LinesFor text lines (linesIf text lines) := by
  unfold linesIf
  split
  · next h => exact .gone (String.isEmpty_iff.1 h)
  · next h => exact .there (mt String.isEmpty_iff.2 h)

omit [LineMark ν] in
theorem showsCount_occurrencesText (f : FindingOf ν) :
    ShowsCount f.occurrences
      ((occurrencesText? f).elim [] fun n => ["- **Occurrences:** " ++ n]) := by
  unfold occurrencesText?
  cases hf : f.occurrences with
  | none => exact .gone fun n h => absurd h (Option.some_ne_none n).symm
  | some n =>
    cases hfilled : n.isFilled with
    | true =>
      rw [Option.filter_some, if_pos hfilled]
      exact .there rfl hfilled
    | false =>
      rw [Option.filter_some, if_neg (by simp [hfilled])]
      exact .gone fun m h => Option.some.inj h ▸ hfilled

theorem showsFinding_findingLines (f : FindingOf ν) : ShowsFinding f (findingLines f) :=
  .mk (isSign_severitySign _) (standsFor_iff.2 rfl) (linesFor_linesIf _ _)
    (showsCount_occurrencesText f) (linesFor_linesIf _ _) (linesFor_linesIf _ _)

theorem showsSection_sectionLines (file : String) (members : List (FindingOf ν)) :
    ShowsSection (file, members) (sectionLines file members) := by
  rw [sectionLines, List.flatMap_def]
  exact .mk (List.forall₂_map_right_iff.2 (List.forall₂_same.2 fun f _ =>
    showsFinding_findingLines f))

/-- The report shows what it is to show. -/
theorem isReport_markdown (generated : Option String) {findings : List (FindingOf ν)}
    (h : findings ≠ []) : IsReport generated findings (markdown generated findings) := by
  have htime : ShowsTime generated (metadataLines generated) := by
    cases generated with
    | none => exact .gone
    | some time => exact .there
  rw [markdown, if_neg (by simpa using h), markdownLines, List.flatMap_def]
  refine .mk (isTable_severityTable findings) ?_ (isByFile_fileSections findings) ?_ htime
  · exact List.forall₂_map_right_iff.2 (List.forall₂_same.2 fun row _ =>
      .mk (isSign_severitySign row.1))
  · exact List.forall₂_map_right_iff.2 (List.forall₂_same.2 fun s _ =>
      showsSection_sectionLines s.1 s.2)

/-! ### When there is a report -/

/-- The numbers that a report says of a finding. -/
inductive Says (f : FindingOf ν) : Value → Prop where
  | line : Says f (LineMark.value f.startLine)
  | occurrences {n : Value} (h : f.occurrences = some n) (hfilled : n.isFilled = true) : Says f n

omit [StandIns] in
theorem numbersWritten_iff {writes : Value → Bool} {f : FindingOf ν} :
    numbersWritten writes f = true ↔ ∀ n, Says f n → writes n = true := by
  rw [numbersWritten, Bool.and_eq_true]
  constructor
  · rintro ⟨hline, hcount⟩ n (_ | ⟨h, hfilled⟩)
    · exact hline
    · simpa [h, hfilled] using hcount
  · intro h
    refine ⟨h _ .line, ?_⟩
    cases hf : f.occurrences with
    | none => rfl
    | some n =>
      cases hfilled : n.isFilled with
      | true => simpa [hfilled] using h n (.occurrences hf hfilled)
      | false => simp [hfilled]

theorem markdownReportWith_of_written {writes : Value → Bool} {findings : List (FindingOf ν)}
    (generated : Option String) (h : ∀ f ∈ findings, ∀ n, Says f n → writes n = true) :
    markdownReportWith writes generated findings = .ok (markdown generated findings) := by
  rw [markdownReportWith, if_pos]
  exact List.all_eq_true.2 fun f hf => numbersWritten_iff.2 (h f hf)

theorem markdownReportWith_of_not_written {writes : Value → Bool} {findings : List (FindingOf ν)}
    (generated : Option String) {f : FindingOf ν} (hf : f ∈ findings) {n : Value} (hn : Says f n)
    (hrefused : writes n = false) :
    markdownReportWith writes generated findings = .error (.numeral .unwritable) := by
  rw [markdownReportWith, if_neg]
  intro hall
  have hwrites := numbersWritten_iff.1 (List.all_eq_true.1 hall f hf) n hn
  exact Bool.false_ne_true (hrefused.symm.trans hwrites)

end

/-- A finding with a severity and a reason, in a line of a file. -/
def foundAt (severity file : String) (line : Int) (rationale : String) : Finding :=
  ⟨"R", "T", severity, file, line, line, rationale, "", "", none, none⟩

end PatchReview.Report
