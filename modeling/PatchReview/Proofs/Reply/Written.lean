import PatchReview.Proofs.Finding
import PatchReview.Proofs.Json.RoundTrip
import PatchReview.Proofs.Reply
import PatchReview.Report.Listing

/-! Findings written as a reply.

The listing of some findings makes a reply that is read back as a table with the tables of the
findings (`readsBack_written`), from which the findings are made again (`mapM_ofEntries`). -/
namespace PatchReview.Reply

open Text Json

/-- A finding with a table that can be written and describes it. -/
structure IsListable (f : Finding) : Prop where
  stated : f.IsStated
  writable : f.value.isWritable = true

theorem occurrences_cases {f : Finding} (h : f.IsStated) :
    f.occurrences = none ∨ (∃ n, f.occurrences = some (.int n)) ∨
      ∃ b, f.occurrences = some (.bool b) := by
  have hsame := h.occurrences
  unfold Finding.occurrencesOf? at hsame
  split at hsame
  · exact .inr (.inl ⟨_, hsame.symm⟩)
  · exact .inr (.inr ⟨_, hsame.symm⟩)
  · exact .inl hsame.symm

/-- The fields of a finding are texts, integers and perhaps whether it was seen. -/
theorem flat_of_mem_entries {f : Finding} (h : f.IsStated) {e : String × Value}
    (he : e ∈ f.entries) : Exact e.2 ∧ e.2.depth = 0 := by
  rcases List.mem_append.1 he with he | he
  · rcases List.mem_append.1 he with he | he
    · simp only [List.mem_cons, List.not_mem_nil, or_false] at he
      rcases he with rfl | rfl | rfl | rfl | rfl | rfl | rfl | rfl | rfl
      all_goals first | exact ⟨.text _, rfl⟩ | exact ⟨.int _, rfl⟩
    · rcases occurrences_cases h with hnone | ⟨n, hn⟩ | ⟨b, hb⟩
      · rw [hnone] at he
        exact absurd he List.not_mem_nil
      · rw [hn] at he
        obtain rfl := List.mem_singleton.1 he
        exact ⟨.int n, rfl⟩
      · rw [hb] at he
        obtain rfl := List.mem_singleton.1 he
        exact ⟨.bool b, rfl⟩
  · cases hfingerprint : f.fingerprint with
    | none =>
      rw [hfingerprint] at he
      exact absurd he List.not_mem_nil
    | some s =>
      rw [hfingerprint] at he
      obtain rfl := List.mem_singleton.1 he
      exact ⟨.text s, rfl⟩

theorem nodup_keys_entries (f : Finding) : (Keyed.keys f.entries).Nodup := by
  obtain ⟨_, _, _, _, _, _, _, _, _, fingerprint, occurrences⟩ := f
  cases occurrences <;> cases fingerprint <;>
    simp [FindingOf.entries, FindingOf.optionalField, Keyed.keys]

theorem exact_value {f : Finding} (h : f.IsStated) : Exact f.value :=
  .table (nodup_keys_entries f) fun _ he => (flat_of_mem_entries h he).1

theorem depthOfEntries_le {entries : List (String × Value)} {n : Nat}
    (h : ∀ e ∈ entries, e.2.depth ≤ n) : Value.depthOfEntries entries ≤ n := by
  induction entries with
  | nil => exact Nat.zero_le n
  | cons e rest ih =>
    rw [Value.depthOfEntries]
    exact Nat.max_le.2 ⟨h e List.mem_cons_self, ih fun d hd => h d (List.mem_cons_of_mem _ hd)⟩

theorem depthOfItems_le {items : List Value} {n : Nat} (h : ∀ v ∈ items, v.depth ≤ n) :
    Value.depthOfItems items ≤ n := by
  induction items with
  | nil => exact Nat.zero_le n
  | cons v rest ih =>
    rw [Value.depthOfItems]
    exact Nat.max_le.2 ⟨h v List.mem_cons_self, ih fun d hd => h d (List.mem_cons_of_mem _ hd)⟩

/-- The findings of a reply as a list of tables. -/
def tablesValue (findings : List Finding) : Value := .list (findings.map (·.value))

/-- The table of a reply with some findings. -/
def tableOf (findings : List Finding) : Entries := [("findings", tablesValue findings)]

/-- The tables of a reply with some findings are those of the findings. -/
theorem tablesIn_tableOf (findings : List Finding) :
    tablesIn ((tableOf findings).get? "findings") = findings.map (·.entries) := by
  show (findings.map (·.value)).filterMap (fun v => table? (some v)) = _
  rw [List.filterMap_map]
  exact congrFun List.filterMap_eq_map findings

section
variable {findings : List Finding} (h : ∀ f ∈ findings, IsListable f)
include h

theorem exact_tablesValue : Exact (tablesValue findings) := by
  refine .list fun v hv => ?_
  obtain ⟨f, hf, rfl⟩ := List.mem_map.1 hv
  exact exact_value (h f hf).stated

theorem depth_tablesValue_le : (tablesValue findings).depth ≤ 2 := by
  rw [tablesValue, Value.depth]
  refine Nat.succ_le_succ (depthOfItems_le fun v hv => ?_)
  obtain ⟨f, hf, rfl⟩ := List.mem_map.1 hv
  rw [FindingOf.value, Value.depth]
  refine Nat.succ_le_succ (depthOfEntries_le fun e he => ?_)
  exact Nat.le_of_eq (flat_of_mem_entries (h f hf).stated he).2

theorem isWritable_tablesValue : (tablesValue findings).isWritable = true := by
  rw [tablesValue, Value.isWritable]
  refine areWritable_iff.2 fun v hv => ?_
  obtain ⟨f, hf, rfl⟩ := List.mem_map.1 hv
  exact (h f hf).writable

end

section
variable [StandIns]

/-- A reply that holds some findings and nothing else. -/
def written (findings : List Finding) : String :=
  "\x7b\"findings\": " ++ Report.listing findings ++ "\x7d"

/-- The listing of some findings is read back as their tables. -/
theorem readsBack_listing {findings : List Finding} (h : ∀ f ∈ findings, IsListable f) {depth : Nat}
    (hdepth : 2 ≤ depth) :
    ReadsBack depth (Report.listing findings).toList (tablesValue findings) := by
  obtain ⟨w, hw⟩ : ∃ w, writeValue Report.listingLayout 0 (tablesValue findings) = .ok w :=
    exists_writeValue rfl (exact_tablesValue h) (isWritable_tablesValue h) 0
  have hwrite : write Report.listingLayout (tablesValue findings) = .ok (String.ofList w) := by
    rw [write, hw]
    rfl
  rw [tablesValue] at hwrite
  rw [Report.listing, hwrite, String.toList_ofList]
  exact readsBack_of_write rfl rfl (exact_tablesValue h) hw
    (Nat.le_trans (depth_tablesValue_le h) hdepth)

theorem readsBack_written {findings : List Finding} (h : ∀ f ∈ findings, IsListable f) :
    ReadsBack depthLimit (written findings).toList (.table (tableOf findings)) := by
  have hentry : ReadsBackEntry 979
      (writeText false "findings".toList ++ ':' :: ' ' :: (Report.listing findings).toList)
      ("findings", tablesValue findings) :=
    ⟨_, rfl, readsBack_listing h (by decide)⟩
  have hkeys : (Keyed.keys (tableOf findings)).Nodup := by simp [tableOf, Keyed.keys]
  have hlist : (written findings).toList = enclose ⟨none, false, false⟩ 0 '\x7b' '\x7d'
      [writeText false "findings".toList ++ ':' :: ' ' :: (Report.listing findings).toList] := by
    have hopening : "\x7b\"findings\": ".toList =
        '\x7b' :: (writeText false "findings".toList ++ [':', ' ']) := by cbv
    rw [written, String.toList_append, String.toList_append, hopening]
    simp [enclose, breakTo]
  rw [hlist]
  exact .table _ 0 hkeys (.cons hentry .nil)

/-- The findings of a table that was written as a reply are those of the table. -/
theorem findings_of_write (layout : Layout) (hkeys : layout.sortKeys = false)
    (hascii : layout.asciiOnly = false) {entries : Entries} (hv : Exact (.table entries))
    (hdepth : (Value.table entries).depth ≤ depthLimit) {reply : String}
    (hreply : write layout (.table entries) = .ok reply) :
    Reply.findings reply = .ok (tablesIn (entries.get? "findings")) := by
  have hread : readChars reply.toList = .ok (.table entries) :=
    read_write hkeys hascii hv hdepth hreply
  have hvalue : valueOf? reply.toList = .ok (some (.table entries)) := by rw [valueOf?, hread]
  simp only [Reply.findings, firstTable?, hvalue, bind, Except.bind, table?]
  rfl

/-- Of the tables of some findings the findings are made again, without fingerprints. -/
theorem mapM_ofEntries {findings : List Finding} (h : ∀ f ∈ findings, IsListable f) :
    (findings.map (·.entries)).mapM Finding.ofEntries =
      .ok (findings.map fun f => { f with fingerprint := none }) := by
  rw [List.mapM_map]
  induction findings with
  | nil => rfl
  | cons f rest ih =>
    rw [List.mapM_cons, Function.comp, Finding.ofEntries_entries (h f List.mem_cons_self).stated,
      ih fun g hg => h g (List.mem_cons_of_mem _ hg)]
    rfl

end

end PatchReview.Reply
