import Mathlib.Algebra.BigOperators.Ring.Finset
import PatchReview.Proofs.Policy.Consolidation
import PatchReview.Proofs.Policy.Identity

/-! No finding is lost by consolidation, and none is counted twice.

Where digests do not collide, there is one group for each text that findings share, in the order in
which these texts first come (`groups_eq_map`). What a group comes to stands for all its findings
(`standsFor_merge`) and counts as many as there are (`StandsFor.occurrenceCount_eq`). -/
namespace PatchReview

open Text

/-! ### First occurrences -/

/-- The different elements of a list, in the order in which they first come. -/
structure Firsts {α : Type} [DecidableEq α] (l firsts : List α) : Prop where
  mem_iff : ∀ a, a ∈ firsts ↔ a ∈ l
  ordered : firsts.Pairwise fun a b => l.idxOf a < l.idxOf b

section
variable {α : Type} [DecidableEq α]

theorem Firsts.nodup {l firsts : List α} (h : Firsts l firsts) : firsts.Nodup :=
  h.ordered.imp fun hlt heq => Nat.ne_of_lt hlt (congrArg l.idxOf heq)

theorem eraseDups_concat (l : List α) (a : α) :
    (l ++ [a]).eraseDups = if a ∈ l then l.eraseDups else l.eraseDups ++ [a] := by
  rw [List.eraseDups_append, List.removeAll]
  by_cases h : a ∈ l <;> simp [h, List.eraseDups_cons]

theorem firsts_eraseDups (l : List α) : Firsts l l.eraseDups := by
  refine ⟨fun a => List.mem_eraseDups, ?_⟩
  induction l using List.reverseRecOn with
  | nil => exact List.Pairwise.nil
  | append_singleton l a ih =>
    have hold : l.eraseDups.Pairwise fun b c => (l ++ [a]).idxOf b < (l ++ [a]).idxOf c := by
      refine ih.imp_of_mem fun {b c} hb hc hlt => ?_
      rwa [List.idxOf_append_of_mem (List.mem_eraseDups.1 hb),
        List.idxOf_append_of_mem (List.mem_eraseDups.1 hc)]
    rw [eraseDups_concat]
    split
    · exact hold
    · rename_i hnew
      refine List.pairwise_append.2 ⟨hold, List.pairwise_singleton _ _, fun b hb c hc => ?_⟩
      obtain rfl := List.mem_singleton.1 hc
      have hmem := List.mem_eraseDups.1 hb
      rw [List.idxOf_append_of_mem hmem, List.idxOf_append_of_notMem hnew]
      exact Nat.lt_add_right _ (List.idxOf_lt_length_iff.2 hmem)

/-- The different elements of a list occur as often as it is long. -/
theorem Firsts.sum_count {l firsts : List α} (h : Firsts l firsts) :
    (firsts.map fun a => l.count a).sum = l.length := by
  have hperm : firsts.Perm l.dedup := by
    refine (List.perm_ext_iff_of_nodup h.nodup l.nodup_dedup).2 fun a => ?_
    rw [h.mem_iff, List.mem_dedup]
  rw [(hperm.map _).sum_eq, List.sum_map_count_dedup_eq_length]

end

namespace Consolidation
variable {ν : Type}

/-! ### Groups in order -/

/-- The signature that a text gives which findings share. -/
def signatureOf (shared : String) : String :=
  Digest.hex (Digest.Md5.digest (Utf8.encode shared.toList))

/-- The texts that findings share, each once. -/
def sharedTexts (findings : List (FindingOf ν)) : List String :=
  (findings.map signatureText).eraseDups

/-- The findings that share a text. -/
def sharing (findings : List (FindingOf ν)) (shared : String) : List (FindingOf ν) :=
  findings.filter (signatureText · = shared)

/-- Findings whose signatures tell apart what they share. -/
def SignaturesTell (findings : List (FindingOf ν)) : Prop :=
  ∀ f ∈ findings, ∀ g ∈ findings, signature f = signature g → signatureText f = signatureText g

section
variable {findings : List (FindingOf ν)}

theorem signaturesTell_of_injOn
    (h : Set.InjOn Digest.Md5.digest {bytes | ∃ f ∈ findings, signatureBytes f = bytes}) :
    SignaturesTell findings :=
  fun f hf g hg hsignature => eq_of_hex_eq h ⟨f, hf, rfl⟩ ⟨g, hg, rfl⟩ hsignature

theorem SignaturesTell.signature_eq_iff (h : SignaturesTell findings) {f g : FindingOf ν}
    (hf : f ∈ findings) (hg : g ∈ findings) :
    signature f = signature g ↔ signatureText f = signatureText g :=
  ⟨h f hf g hg, congrArg signatureOf⟩

theorem exists_of_mem_sharedTexts {shared : String} (h : shared ∈ sharedTexts findings) :
    ∃ f ∈ findings, signatureText f = shared :=
  List.mem_map.1 (List.mem_eraseDups.1 h)

theorem keys_groups (h : SignaturesTell findings) :
    Keyed.keys (groups findings) = (sharedTexts findings).map signatureOf := by
  induction findings using List.reverseRecOn with
  | nil => rfl
  | append_singleton findings f ih =>
    have hlast : f ∈ findings ++ [f] := List.mem_append_right _ (List.mem_singleton_self f)
    have hknown : signature f ∈ findings.map signature ↔
        signatureText f ∈ findings.map signatureText := by
      rw [List.mem_map, List.mem_map]
      refine exists_congr fun g => and_congr_right fun hg => ?_
      exact h.signature_eq_iff (List.mem_append_left _ hg) hlast
    have hbefore := ih fun g hg k hk =>
      h g (List.mem_append_left _ hg) k (List.mem_append_left _ hk)
    have hshared : sharedTexts (findings ++ [f]) =
        if signatureText f ∈ findings.map signatureText then sharedTexts findings
        else sharedTexts findings ++ [signatureText f] := by
      rw [sharedTexts, List.map_append, List.map_singleton, eraseDups_concat]
      rfl
    rw [groups_concat, Keyed.keys_alter, hshared]
    simp only [mem_keys_groups, hknown]
    split
    · exact hbefore
    · rw [hbefore, List.map_append]
      rfl

/-- There is one group for each text that is shared, with the findings that share it. -/
theorem groups_eq_map (h : SignaturesTell findings) :
    groups findings =
      (sharedTexts findings).map fun shared => (signatureOf shared, sharing findings shared) := by
  have hgroups : groups findings = (Keyed.keys (groups findings)).map fun key =>
      (key, findings.filter (signature · = key)) := by
    rw [Keyed.keys, List.map_map]
    refine (List.map_id _).symm.trans (List.map_congr_left fun group hgroup => ?_)
    exact Prod.ext rfl (eq_filter_of_mem_groups hgroup)
  rw [hgroups, keys_groups h, List.map_map]
  refine List.map_congr_left fun shared hshared => Prod.ext rfl (List.filter_congr fun f hf => ?_)
  obtain ⟨g, hg, rfl⟩ := exists_of_mem_sharedTexts hshared
  exact decide_eq_decide.2 (h.signature_eq_iff hf hg)

theorem consolidate_eq_flatMap (h : SignaturesTell findings) :
    consolidate findings =
      (sharedTexts findings).flatMap fun shared => merge (sharing findings shared) := by
  rw [consolidate, groups_eq_map h, List.flatMap_map]

end

/-! ### What a group comes to -/

/-- A text that names files: the first three different ones in order, and how many more there are
exactly if there are more. -/
def NamesFiles (files : List String) (text : String) : Prop :=
  ∃ different, Firsts files different ∧
    text = ", ".intercalate (different.take 3) ++
      (if different.length ≤ 3 then "" else s!" +{different.length - 3} more")

/-- What stands for similar findings: the only one as it is, or else one that counts them, names
their files and is otherwise the first of them but for title and rationale. -/
inductive StandsFor : List (FindingOf ν) → FindingOf ν → Prop
  | alone (f : FindingOf ν) : StandsFor [f] f
  | together {first next f : FindingOf ν} {rest : List (FindingOf ν)}
      (eq_first : f =
        { first with
          title := f.title
          file := f.file
          rationale := f.rationale
          occurrences := some (.int (first :: next :: rest).length) })
      (namesFiles : NamesFiles ((first :: next :: rest).map (·.file)) f.file) :
      StandsFor (first :: next :: rest) f

/-- How many findings a finding stands for: one, if it does not say. -/
def occurrenceCount (f : FindingOf ν) : Int :=
  match f.occurrences with
  | some (.int n) => n
  | _ => 1

theorem namesFiles_filesText (files : List String) :
    NamesFiles files (filesText files.eraseDups) := by
  refine ⟨_, firsts_eraseDups files, ?_⟩
  rw [filesText, namedFiles]
  simp only [Nat.sub_eq_zero_iff_le]

theorem standsFor_merge {members : List (FindingOf ν)} (h : members ≠ []) :
    ∃ f, merge members = [f] ∧ StandsFor members f := by
  match members with
  | [] => exact absurd rfl h
  | [f] => exact ⟨f, rfl, .alone f⟩
  | first :: next :: rest => exact ⟨_, rfl, .together rfl (namesFiles_filesText _)⟩

theorem StandsFor.occurrenceCount_eq {members : List (FindingOf ν)} {f : FindingOf ν}
    (h : StandsFor members f) (hunset : ∀ m ∈ members, m.occurrences = none) :
    occurrenceCount f = members.length := by
  cases h with
  | alone => rw [occurrenceCount, hunset f (List.mem_singleton_self f)]; rfl
  | together heq => rw [heq]; rfl

/-! ### All findings -/

/-- What stands for some findings: one finding for each text that is shared, in the order in which
these texts first come, and all together count as many findings as there are. -/
structure Conserves (findings out : List (FindingOf ν)) : Prop where
  classes : ∃ shared, Firsts (findings.map signatureText) shared ∧
    List.Forall₂ (fun s f => StandsFor (sharing findings s) f) shared out
  sum_eq : (out.map occurrenceCount).sum = findings.length

section
variable {findings : List (FindingOf ν)}

theorem sharing_ne_nil {shared : String} (h : shared ∈ sharedTexts findings) :
    sharing findings shared ≠ [] := by
  obtain ⟨f, hf, hshared⟩ := exists_of_mem_sharedTexts h
  exact List.ne_nil_of_mem (List.mem_filter.2 ⟨hf, decide_eq_true hshared⟩)

theorem length_sharing (findings : List (FindingOf ν)) (shared : String) :
    (sharing findings shared).length = (findings.map signatureText).count shared := by
  rw [sharing, ← List.countP_eq_length_filter, List.count_eq_countP, List.countP_map]
  rfl

theorem forall₂_flatMap_merge {shared : List String} (h : ∀ s ∈ shared, sharing findings s ≠ []) :
    List.Forall₂ (fun s f => StandsFor (sharing findings s) f) shared
      (shared.flatMap fun s => merge (sharing findings s)) := by
  induction shared with
  | nil => exact .nil
  | cons s rest ih =>
    obtain ⟨f, hmerge, hf⟩ := standsFor_merge (h s List.mem_cons_self)
    rw [List.flatMap_cons, hmerge]
    exact .cons hf (ih fun t ht => h t (List.mem_cons_of_mem s ht))

theorem map_occurrenceCount_eq {shared : List String} {out : List (FindingOf ν)}
    (hunset : ∀ f ∈ findings, f.occurrences = none)
    (h : List.Forall₂ (fun s f => StandsFor (sharing findings s) f) shared out) :
    out.map occurrenceCount =
      shared.map fun s => (((findings.map signatureText).count s : Nat) : Int) := by
  induction h with
  | nil => rfl
  | @cons s f _ _ hf _ ih =>
    have hcount := hf.occurrenceCount_eq fun m hm => hunset m (List.mem_of_mem_filter hm)
    rw [List.map_cons, List.map_cons, ih, hcount, length_sharing]

theorem conserves_consolidate (hunset : ∀ f ∈ findings, f.occurrences = none)
    (h : SignaturesTell findings) : Conserves findings (consolidate findings) := by
  have hfirsts : Firsts (findings.map signatureText) (sharedTexts findings) := firsts_eraseDups _
  have hne : ∀ s ∈ sharedTexts findings, sharing findings s ≠ [] := fun s hs => sharing_ne_nil hs
  have hclasses := forall₂_flatMap_merge hne
  rw [← consolidate_eq_flatMap h] at hclasses
  refine ⟨⟨_, hfirsts, hclasses⟩, ?_⟩
  have hsum := hfirsts.sum_count
  rw [List.length_map] at hsum
  rw [map_occurrenceCount_eq hunset hclasses, ← hsum, Nat.cast_list_sum, List.map_map]
  rfl

end

/-! ### Findings with a signature -/

section
variable [StandIns]

/-- A finding that can be compared: what it shares with similar ones can be written. -/
structure HasSignature (f : FindingOf ν) : Prop where
  ruleId : IsWhole f.ruleId.toList
  severity : IsWhole f.severity.toList
  title : IsWhole (f.title.toList.take titleLength)

theorem isWhole_signatureText_iff (f : FindingOf ν) :
    IsWhole (signatureText f).toList ↔ HasSignature f := by
  have happend {s t : List Char} : IsWhole (s ++ t) ↔ IsWhole s ∧ IsWhole t :=
    List.forall_mem_append
  have hbar : IsWhole "|".toList := isWhole_of_isAssigned (by decide)
  rw [toList_signatureText]
  simp only [happend, hbar, and_true]
  constructor
  · rintro ⟨hrule, hseverity, htitle⟩
    exact ⟨hrule, hseverity, htitle⟩
  · exact fun h => ⟨h.ruleId, h.severity, h.title⟩

theorem consolidation_eq_ok_iff {findings out : List (FindingOf ν)} :
    consolidation findings = .ok out ↔
      (∀ f ∈ findings, HasSignature f) ∧ consolidate findings = out := by
  have hfault : fault? findings = none ↔ ∀ f ∈ findings, HasSignature f :=
    (fault?_eq_none_iff findings).trans (forall₂_congr fun f _ => isWhole_signatureText_iff f)
  rw [← hfault, consolidation]
  cases fault? findings <;> simp

theorem cause_of_consolidation {findings : List (FindingOf ν)} {e : Failure}
    (h : consolidation findings = .error e) : ∃ cause, e = .notEncodable cause := by
  rw [consolidation] at h
  split at h
  · rename_i cause hfault
    obtain ⟨cause, -, rfl⟩ := Option.map_eq_some_iff.1 hfault
    exact ⟨cause, (Except.error.inj h).symm⟩
  · exact absurd h (by simp)

/-- **Conservation.** Where digests do not collide and no finding counts others already, one finding
is left for each text that findings share, in the order in which these texts first come: the only
finding that has it, or one that stands for all of them. All together they count as many findings as
there were. Consolidation fails exactly if what a finding shares cannot be written. -/
theorem consolidation_conserves (findings : List (FindingOf ν))
    (hunset : ∀ f ∈ findings, f.occurrences = none)
    (hsignature : Set.InjOn Digest.Md5.digest
      {bytes | ∃ f ∈ findings, signatureBytes f = bytes}) :
    (∀ out, consolidation findings = .ok out → Conserves findings out) ∧
      (∀ e, consolidation findings = .error e → ∃ cause, e = .notEncodable cause) ∧
      ((∃ out, consolidation findings = .ok out) ↔ ∀ f ∈ findings, HasSignature f) := by
  refine ⟨fun out hout => ?_, fun e => cause_of_consolidation, ?_⟩
  · obtain ⟨-, rfl⟩ := consolidation_eq_ok_iff.1 hout
    exact conserves_consolidate hunset (signaturesTell_of_injOn hsignature)
  · constructor
    · rintro ⟨out, hout⟩
      exact (consolidation_eq_ok_iff.1 hout).1
    · exact fun h => ⟨_, consolidation_eq_ok_iff.2 ⟨h, rfl⟩⟩

end

/-- A finding for rule `R` in a file. -/
def foundIn (file : String) : Finding := ⟨"R", "T", "info", file, 1, 1, "", "", "c", none, none⟩

/-- A finding for rule `S`. -/
def foundOnce : Finding := ⟨"S", "T", "info", "f.py", 2, 2, "", "", "d", none, none⟩

/-- Similar findings in four files, with another one between them. -/
theorem consolidation_conserves_between :
    letI : StandIns := ⟨.besides []⟩
    let findings := [foundIn "a", foundOnce, foundIn "b", foundIn "c", foundIn "d", foundIn "a"]
    (∀ f ∈ findings, f.occurrences = none) ∧
      Set.InjOn Digest.Md5.digest {bytes | ∃ f ∈ findings, signatureBytes f = bytes} ∧
      ∃ out, consolidation findings = .ok out ∧ Conserves findings out ∧
        out.map (fun f => (f.ruleId, f.file, occurrenceCount f)) =
          [("R", "a, b, c +1 more", 5), ("S", "f.py", 1)] := by
  let _ : StandIns := ⟨.besides []⟩
  intro findings
  have hunset : ∀ f ∈ findings, f.occurrences = none := by decide
  have hsignature : Set.InjOn Digest.Md5.digest
      {bytes | ∃ f ∈ findings, signatureBytes f = bytes} := by
    have hpair : Set.InjOn Digest.Md5.digest
        {signatureBytes (foundIn "a"), signatureBytes foundOnce} :=
      Set.injOn_pair.2 fun h => absurd h (by decide +kernel)
    refine hpair.mono ?_
    rintro _ ⟨f, hf, rfl⟩
    simp only [findings, List.mem_cons, List.not_mem_nil, or_false] at hf
    rcases hf with rfl | rfl | rfl | rfl | rfl | rfl
    · exact .inl rfl
    · exact .inr rfl
    · exact .inl rfl
    · exact .inl rfl
    · exact .inl rfl
    · exact .inl rfl
  have hfault : fault? findings = none := Option.isNone_iff_eq_none.1 (by decide +kernel)
  have hwhole : ∀ f ∈ findings, HasSignature f := fun f hf =>
    (isWhole_signatureText_iff f).1 ((fault?_eq_none_iff findings).1 hfault f hf)
  obtain ⟨hconserves, -, hok⟩ := consolidation_conserves findings hunset hsignature
  obtain ⟨out, hout⟩ := hok.2 hwhole
  refine ⟨hunset, hsignature, out, hout, hconserves out hout, ?_⟩
  obtain rfl := (consolidation_eq_ok_iff.1 hout).2
  decide +kernel

/-- A finding with half of a surrogate pair in its title. -/
def halfTitle [StandIns] : Finding :=
  ⟨"R", String.ofList [Surrogate.standIn 0xD800], "info", "f.py", 1, 1, "", "", "", none, none⟩

/-- One finding is not even compared to others, and yet consolidation fails. -/
theorem consolidation_half :
    letI : StandIns := ⟨.besides []⟩
    (∀ f ∈ [halfTitle], f.occurrences = none) ∧
      Set.InjOn Digest.Md5.digest {bytes | ∃ f ∈ [halfTitle], signatureBytes f = bytes} ∧
      ¬∃ out, consolidation [halfTitle] = .ok out := by
  let _ : StandIns := ⟨.besides []⟩
  refine ⟨fun f hf => ?_, ?_, ?_⟩
  · rw [List.mem_singleton.1 hf, halfTitle]
  · refine Set.Subsingleton.injOn ?_ _
    rintro _ ⟨f, hf, rfl⟩ _ ⟨g, hg, rfl⟩
    rw [List.mem_singleton.1 hf, List.mem_singleton.1 hg]
  · rintro ⟨out, hout⟩
    have hwhole := ((consolidation_eq_ok_iff.1 hout).1 halfTitle (List.mem_singleton_self _)).title
    rw [halfTitle, String.toList_ofList] at hwhole
    have hnone := hwhole (Surrogate.standIn 0xD800) List.mem_cons_self
    rw [Surrogate.half?_standIn (by decide)] at hnone
    exact absurd hnone (Option.some_ne_none _)

end Consolidation

end PatchReview
