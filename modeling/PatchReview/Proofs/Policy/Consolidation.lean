import PatchReview.Policy.Selection
import PatchReview.Proofs.Keyed
import PatchReview.Proofs.Text.Encoding
import PatchReview.Proofs.Text.Numeral

/-! Groups of similar findings.

A group has all findings with its signature, in their order (`eq_filter_of_mem_groups`), so that
every finding that consolidation leaves is one of those that were there, or stands for several of
them (`exists_of_mem_consolidate`). Findings whose texts can be written are consolidated to such
findings (`hasWholeTexts_consolidate`), and so are findings whose lines can be
(`hasWritableLines_consolidate`). -/
namespace PatchReview

open Text

/-! ### Groups -/

section
variable {ν : Type}

namespace Consolidation

theorem groups_eq_tally (findings : List (FindingOf ν)) :
    groups findings = Keyed.tally signature Keyed.addTo findings := rfl

theorem groups_concat (findings : List (FindingOf ν)) (f : FindingOf ν) :
    groups (findings ++ [f]) = (groups findings).alter (signature f) (Keyed.addTo f) :=
  Keyed.tally_concat signature Keyed.addTo findings f

theorem mem_keys_groups {key : String} {findings : List (FindingOf ν)} :
    key ∈ Keyed.keys (groups findings) ↔ key ∈ findings.map signature := by
  rw [groups_eq_tally, Keyed.mem_keys_tally, List.mem_map]

/-- A group has all findings with its signature, in their order. -/
theorem eq_filter_of_mem_groups {findings : List (FindingOf ν)}
    {group : String × List (FindingOf ν)} (h : group ∈ groups findings) :
    group.2 = findings.filter (signature · = group.1) :=
  Keyed.eq_of_mem_tally id (fun _ => rfl) (fun _ _ _ => rfl) h

theorem mem_of_mem_group {findings : List (FindingOf ν)} {group : String × List (FindingOf ν)}
    (h : group ∈ groups findings) {f : FindingOf ν} (hf : f ∈ group.2) :
    f ∈ findings ∧ signature f = group.1 := by
  rw [eq_filter_of_mem_groups h, List.mem_filter, decide_eq_true_eq] at hf
  exact hf

/-- Findings are in one group exactly if they have one signature. -/
theorem exists_group_iff {findings : List (FindingOf ν)} {f g : FindingOf ν} (hf : f ∈ findings)
    (hg : g ∈ findings) :
    (∃ group ∈ groups findings, f ∈ group.2 ∧ g ∈ group.2) ↔ signature f = signature g := by
  constructor
  · rintro ⟨group, hgroup, hfm, hgm⟩
    exact (mem_of_mem_group hgroup hfm).2.trans (mem_of_mem_group hgroup hgm).2.symm
  · intro h
    obtain ⟨group, hgroup, hkey⟩ :=
      List.mem_map.1 (mem_keys_groups.2 (List.mem_map.2 ⟨f, hf, rfl⟩))
    rw [← hkey] at h
    refine ⟨group, hgroup, ?_⟩
    rw [eq_filter_of_mem_groups hgroup, List.mem_filter, List.mem_filter, decide_eq_true_eq,
      decide_eq_true_eq]
    exact ⟨⟨hf, hkey.symm⟩, hg, h.symm⟩

/-- What consolidation leaves: findings, and findings that stand for several others. -/
theorem exists_of_mem_consolidate {findings : List (FindingOf ν)} {f : FindingOf ν}
    (h : f ∈ consolidate findings) :
    f ∈ findings ∨ ∃ first members, f = aggregate first members ∧ first ∈ findings ∧
      ∀ m ∈ members, m ∈ findings := by
  obtain ⟨group, hgroup, hf⟩ := List.mem_flatMap.1 h
  have hmem (m : FindingOf ν) (hm : m ∈ group.2) : m ∈ findings := (mem_of_mem_group hgroup hm).1
  obtain ⟨key, members⟩ := group
  match members with
  | [] => exact absurd hf List.not_mem_nil
  | [only] => exact .inl (hmem f hf)
  | first :: next :: rest =>
    obtain rfl := List.mem_singleton.1 hf
    exact .inr ⟨first, first :: next :: rest, rfl, hmem first List.mem_cons_self, hmem⟩

theorem toList_signatureText (f : FindingOf ν) : (signatureText f).toList =
    f.ruleId.toList ++ "|".toList ++
      (f.severity.toList ++ "|".toList ++ f.title.toList.take titleLength) := by
  rw [signatureText, String.intercalate_cons_cons, String.intercalate_cons_cons,
    String.intercalate_singleton]
  simp only [String.toList_append, String.toList_ofList]

/-- What a title starts with is part of what findings are compared by. -/
theorem mem_signatureText {f : FindingOf ν} {c : Char} (h : c ∈ f.title.toList.take titleLength) :
    c ∈ (signatureText f).toList := by
  rw [toList_signatureText]
  exact List.mem_append_right _ (List.mem_append_right _ h)

variable [StandIns]

theorem fault?_eq_none_iff (findings : List (FindingOf ν)) :
    fault? findings = none ↔ ∀ f ∈ findings, IsWhole (signatureText f).toList := by
  rw [fault?, Option.map_eq_none_iff, List.findSome?_eq_none_iff]
  exact forall₂_congr fun f _ => encodeError?_eq_none_iff _

end Consolidation

/-! ### Findings that can be written -/

variable [StandIns] [LineMark ν]

namespace FindingOf

/-- A finding whose texts have no half of a surrogate pair and whose lines are not too long to be
written. -/
structure IsWritable (f : FindingOf ν) : Prop where
  texts : ∀ s ∈ [f.file, f.startText, f.endText, f.ruleId, f.content, f.severity, f.title],
    IsWhole s.toList
  startLine : (LineMark.value f.startLine).isWritable = true
  endLine : (LineMark.value f.endLine).isWritable = true

/-- The texts by which a finding is told apart from others have no half of a surrogate pair. -/
def HasWholeTexts (f : FindingOf ν) : Prop :=
  ∀ s ∈ [f.file, f.startText, f.endText, f.ruleId, f.content, f.severity, f.title],
    IsWhole s.toList

/-- The lines of a finding are not too long to be written. -/
def HasWritableLines (f : FindingOf ν) : Prop :=
  (LineMark.value f.startLine).isWritable = true ∧ (LineMark.value f.endLine).isWritable = true

theorem isWhole_bar : IsWhole "|".toList := isWhole_of_isAssigned (by decide)

theorem HasWholeTexts.isWhole_identity {f : FindingOf ν} (h : f.HasWholeTexts) :
    IsWhole f.identity.toList := by
  refine isWhole_bar.intercalate fun s hs => h s ?_
  simp only [List.mem_cons, List.not_mem_nil, or_false] at hs ⊢
  tauto

theorem HasWholeTexts.isWhole_signatureText {f : FindingOf ν} (h : f.HasWholeTexts) :
    IsWhole (Consolidation.signatureText f).toList := by
  refine isWhole_bar.intercalate fun s hs => ?_
  simp only [List.mem_cons, List.not_mem_nil, or_false] at hs
  rcases hs with rfl | rfl | rfl
  · exact h _ (by simp)
  · exact h _ (by simp)
  · have htitle : IsWhole f.title.toList := h _ (by simp)
    rw [String.toList_ofList]
    exact fun c hc => htitle c (List.mem_of_mem_take hc)

/-- Why a finding has no digest: a text that UTF-8 cannot hold, or a line that is too long. -/
theorem cause_of_digestFault? {f : FindingOf ν} {e : Failure} (h : f.digestFault? = some e) :
    (∃ cause, e = .notEncodable cause ∧ ¬f.HasWholeTexts) ∨
      (e = .numeral .unwritable ∧ ¬f.HasWritableLines) := by
  unfold FindingOf.digestFault? at h
  split at h
  · obtain ⟨cause, hcause, rfl⟩ := Option.map_eq_some_iff.1 h
    refine .inl ⟨cause, rfl, fun htexts => ?_⟩
    rw [(encodeError?_eq_none_iff _).2 htexts.isWhole_identity] at hcause
    exact absurd hcause (Option.some_ne_none cause).symm
  · rename_i hlines
    refine .inr ⟨(Option.some.inj h).symm, fun hwritable => hlines ?_⟩
    rw [hwritable.1, hwritable.2]
    rfl

end FindingOf

namespace Consolidation

theorem isWhole_toString (n : Nat) : IsWhole (toString n).toList := by
  refine isWhole_of_isAssigned (List.all_eq_true.2 fun c hc => ?_)
  rw [Nat.toString_eq_repr, Nat.toList_repr] at hc
  have hlt := toNat_lt_of_charIsDigit (Nat.isDigit_of_mem_toDigits (by decide) (by decide) hc)
  exact Nat.ble_eq_true_of_le (Nat.lt_trans hlt (by decide))

theorem isWhole_filesText {files : List String} (h : ∀ s ∈ files, IsWhole s.toList) :
    IsWhole (filesText files).toList := by
  have hcomma : IsWhole ", ".toList := isWhole_of_isAssigned (by decide)
  have hplus : IsWhole (toString " +").toList := isWhole_of_isAssigned (by decide)
  have hmore : IsWhole (toString " more").toList := isWhole_of_isAssigned (by decide)
  have hempty : IsWhole "".toList := fun c hc => absurd hc List.not_mem_nil
  refine IsWhole.append (hcomma.intercalate fun s hs => h s (List.mem_of_mem_take hs)) ?_
  split
  · exact hempty
  · exact (hplus.append (isWhole_toString _)).append hmore

theorem hasWholeTexts_aggregate {first : FindingOf ν} (hfirst : first.HasWholeTexts)
    {members : List (FindingOf ν)} (h : ∀ m ∈ members, m.HasWholeTexts) :
    (aggregate first members).HasWholeTexts := by
  have hmark : IsWhole "Aggregated: ".toList := isWhole_of_isAssigned (by decide)
  have hfiles : ∀ s ∈ (members.map (·.file)).eraseDups, IsWhole s.toList := by
    intro s hs
    obtain ⟨m, hm, rfl⟩ := List.mem_map.1 (List.mem_eraseDups.1 hs)
    exact h m hm _ (by simp)
  intro s hs
  simp only [List.mem_cons, List.not_mem_nil, or_false] at hs
  rcases hs with rfl | rfl | rfl | rfl | rfl | rfl | rfl
  · exact isWhole_filesText hfiles
  · exact hfirst first.startText (by simp)
  · exact hfirst first.endText (by simp)
  · exact hfirst first.ruleId (by simp)
  · exact hfirst first.content (by simp)
  · exact hfirst first.severity (by simp)
  · exact hmark.append (hfirst first.title (by simp))

theorem hasWholeTexts_consolidate {findings : List (FindingOf ν)}
    (h : ∀ f ∈ findings, f.HasWholeTexts) : ∀ f ∈ consolidate findings, f.HasWholeTexts := by
  intro f hf
  rcases exists_of_mem_consolidate hf with hf | ⟨first, members, rfl, hfirst, hmembers⟩
  · exact h f hf
  · exact hasWholeTexts_aggregate (h first hfirst) fun m hm => h m (hmembers m hm)

omit [StandIns] in
/-- A finding that stands for others has the lines of the first of them. -/
theorem hasWritableLines_consolidate {findings : List (FindingOf ν)}
    (h : ∀ f ∈ findings, f.HasWritableLines) : ∀ f ∈ consolidate findings, f.HasWritableLines := by
  intro f hf
  rcases exists_of_mem_consolidate hf with hf | ⟨first, members, rfl, hfirst, -⟩
  · exact h f hf
  · exact h first hfirst

end Consolidation

end

end PatchReview
