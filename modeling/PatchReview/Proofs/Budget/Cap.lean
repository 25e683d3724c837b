import PatchReview.Proofs.Budget.Memory
import PatchReview.Proofs.Budget.Truncation

/-! The cap for a file, and what is left of a text that is above it.

Every text that can be written is brought below a cap that is not below zero, and stays as it is
from then on (`enforceCap_hardBound`). What is left of it is all of its important lines and as many
comments as fit, or the beginning of the important lines, if these alone are too long and the first
comment does not make them fit (`enforceCap_keeps`). -/
namespace PatchReview.Budget

open Text

section
variable [StandIns] {text : String}

/-! ### Texts that can be written -/

/-- What is cut down from lines of a text has its characters from there, but for newlines. -/
theorem CutsDown.isWhole {k : Nat} {t : String} {estimate : String → Nat} {cap : Int}
    (h : CutsDown estimate cap (keptText text k) t) (hwhole : IsWhole text.toList) :
    IsWhole t.toList := by
  refine hwhole.of_mem fun c hc => ?_
  have hkept := h.isPrefix.subset hc
  rw [keptText, String.toList_ofList] at hkept
  rcases mem_joinLines hkept with rfl | ⟨line, hline, hc⟩
  · exact .inr (by decide)
  · exact .inl ((mem_of_mem_splitNewlines (mem_keptLines hline).1).2 c hc)

/-- A text without an estimate cannot be compared with the cap. -/
theorem enforceCap_of_not_isWhole (b : Budget) (h : ¬IsWhole text.toList) :
    ∃ e, b.enforceCap text = .error (.notEncodable e) := by
  obtain ⟨e, he⟩ : ∃ e, Utf8.encodeError? text.toList = some e := by
    rw [← Option.ne_none_iff_exists']
    exact mt (encodeError?_eq_none_iff text.toList).1 h
  refine ⟨e, ?_⟩
  rw [enforceCap, enforce, estimateFault?, he]
  rfl

/-! ### The hard bound -/

/-- The cap for a file is a hard bound. Every text that can be written is replaced by one below the
cap, by itself exactly if it is below the cap; what replaces it replaces itself. A text that is
above the cap is cut down to that from some of its lines. -/
theorem enforceCap_hardBound (b : Budget) (hcap : 0 ≤ b.perFileCap) (text : String) :
    (IsWhole text.toList → ∃ t, Enforces b text (.ok t) ∧ (b.estimate t : Int) ≤ b.perFileCap ∧
      (t = text ↔ (b.estimate text : Int) ≤ b.perFileCap) ∧ Enforces b t (.ok t) ∧
        (b.perFileCap < b.estimate text → ∃ k, Fits b.estimate b.perFileCap text k ∧
          CutsDown b.estimate b.perFileCap (keptText text k) t)) ∧
      (¬IsWhole text.toList → ∃ e, Enforces b text (.error (.notEncodable e))) := by
  refine ⟨fun hwhole => ?_, fun hwhole => ?_⟩
  · have hfault := (estimateFault?_eq_none_iff text).2 hwhole
    by_cases hle : (b.estimate text : Int) ≤ b.perFileCap
    · have hsame := enforces_of_eq (enforceCap_of_le hfault hle)
      exact ⟨text, hsame, hle, iff_of_true rfl hle, hsame, fun hlt => absurd hle (Int.not_le.2 hlt)⟩
    · obtain ⟨k, t, hfits, hcuts, ht⟩ := enforceCap_of_lt hcap hfault (Int.not_le.1 hle)
      have hfault' := (estimateFault?_eq_none_iff t).2 (hcuts.isWhole hwhole)
      refine ⟨t, enforces_of_eq ht, hcuts.le_cap, iff_of_false ?_ hle,
        enforces_of_eq (enforceCap_of_le hfault' hcuts.le_cap), fun _ => ⟨k, hfits, hcuts⟩⟩
      rintro rfl
      exact hle hcuts.le_cap
  · obtain ⟨e, he⟩ := enforceCap_of_not_isWhole b hwhole
    exact ⟨e, enforces_of_eq he⟩

end

/-- A budget with a small cap for each file. -/
def tight : Budget := ⟨8000, 5, "trim", "mock"⟩

theorem enforceCap_hardBound_tight :
    letI : StandIns := ⟨.besides []⟩
    ∃ t, Enforces tight "@@ -1 +1 @@\n-total = 0\n+total = 1\n# done" (.ok t) ∧
      (tight.estimate t : Int) ≤ 5 ∧ t ≠ "@@ -1 +1 @@\n-total = 0\n+total = 1\n# done" ∧
        Enforces tight t (.ok t) := by
  let _ : StandIns := ⟨.besides []⟩
  have hcap : 0 ≤ tight.perFileCap := by decide
  obtain ⟨t, ht, hle, hiff, hagain, -⟩ := (enforceCap_hardBound tight hcap
    "@@ -1 +1 @@\n-total = 0\n+total = 1\n# done").1 (isWhole_of_isAssigned (by decide +kernel))
  exact ⟨t, ht, hle, mt hiff.1 (by decide +kernel), hagain⟩

/-- Half of a surrogate pair has no bytes to count. -/
theorem enforceCap_half :
    letI : StandIns := ⟨.besides []⟩
    0 ≤ tight.perFileCap ∧
      ¬∃ t, tight.enforceCap (String.ofList [Surrogate.standIn 0xD800]) = .ok t := by
  let _ : StandIns := ⟨.besides []⟩
  refine ⟨by decide, ?_⟩
  rintro ⟨t, ht⟩
  have hhalf : ¬IsWhole (String.ofList [Surrogate.standIn 0xD800]).toList := by
    rw [String.toList_ofList]
    intro hwhole
    have hnone := hwhole _ (List.mem_singleton_self _)
    rw [Surrogate.half?_standIn (by decide)] at hnone
    exact absurd hnone (Option.some_ne_none _)
  obtain ⟨e, he⟩ := enforceCap_of_not_isWhole tight hhalf
  exact absurd (he.symm.trans ht) (by simp)

/-! ### What is left -/

section
variable {b : Budget} {text : String}

/-- All important lines and the first comments are left, and one comment more would be too much. -/
structure TakesRemarks (b : Budget) (text : String) (k : Nat) (t : String) : Prop where
  text_eq : t = keptText text k
  le_length : k ≤ (remarkLines text).length
  full : k < (remarkLines text).length → b.perFileCap < b.estimate (keptText text (k + 1))
  lines : t = "" ∨ (linesOf t = keptLines text k ∧ ∀ line ∈ linesOf t, 2 ≤ linePriority line)

/-- The beginning of the important lines is left, which are too long alone and with the first
comment. -/
structure CutsImportant (b : Budget) (text t : String) : Prop where
  isPrefix : t.toList <+: joinLines (importantLines text)
  ne_all : t.toList ≠ joinLines (importantLines text)
  tooLong : b.perFileCap < b.estimate (String.ofList (joinLines (importantLines text)))
  tooLong_next : ∀ line, (remarkLines text).head? = some line →
    b.perFileCap < b.estimate (String.ofList (joinLines (importantLines text ++ [line])))
  lines : ∃ n whole last, (importantLines text)[n]? = some whole ∧ last <+: whole ∧
    linesOf t = (importantLines text).take n ++ [last]

/-- Lines that fit are left as they are. -/
theorem takesRemarks_of_fits {k : Nat} (h : Fits b.estimate b.perFileCap text k) :
    TakesRemarks b text k (keptText text k) := by
  refine ⟨rfl, h.le_length, h.full, ?_⟩
  rcases eq_or_ne (keptLines text k) [] with hnil | hne
  · exact .inl (by rw [keptText, hnil, joinLines, String.ofList_nil])
  · have hlines : linesOf (keptText text k) = keptLines text k := by
      rw [linesOf, keptText, String.toList_ofList]
      exact splitNewlines_joinLines hne fun line hl => newline_notMem_of_mem_keptLines hl
    refine .inr ⟨hlines, fun line hl => ?_⟩
    rw [hlines] at hl
    exact (mem_keptLines hl).2

/-- Only the important lines are cut. -/
theorem cutsImportant_of_cutsDown (hcap : 0 ≤ b.perFileCap) {k : Nat} {t : String}
    (hfits : Fits b.estimate b.perFileCap text k)
    (hcuts : CutsDown b.estimate b.perFileCap (keptText text k) t)
    (hover : b.perFileCap < b.estimate (keptText text k)) : CutsImportant b text t := by
  obtain rfl : k = 0 := by
    refine Nat.eq_zero_of_not_pos fun hpos => ?_
    exact absurd (hfits.le_cap hpos) (Int.not_le.2 hover)
  have hbegin := hcuts.isPrefix
  rw [keptText, keptLines_zero] at hover
  rw [keptText, keptLines_zero, String.toList_ofList] at hbegin
  have hne : importantLines text ≠ [] := by
    intro hnil
    rw [hnil, joinLines, String.ofList_nil, estimate, estimateFor_empty] at hover
    omega
  refine ⟨hbegin, fun heq => ?_, hover, fun line hline => ?_, ?_⟩
  · rw [← heq, String.ofList_toList] at hover
    exact absurd hcuts.le_cap (Int.not_le.2 hover)
  · obtain ⟨rest, hremarks⟩ := List.head?_eq_some_iff.1 hline
    have hfull := hfits.full (by rw [hremarks]; exact Nat.succ_pos _)
    rwa [keptText, keptLines, hremarks, List.take_succ_cons, List.take_zero] at hfull
  · refine splitNewlines_of_isPrefix hne (fun line hl => ?_) hbegin
    rw [← keptLines_zero] at hl
    exact newline_notMem_of_mem_keptLines hl

/-- A text above the cap keeps its changes before its comments, and gets nothing new. -/
theorem enforceCap_keeps [StandIns] (b : Budget) (hcap : 0 ≤ b.perFileCap) (text : String)
    (hwhole : IsWhole text.toList) (hover : b.perFileCap < b.estimate text) :
    ∃ t, Enforces b text (.ok t) ∧
      ((∃ k, TakesRemarks b text k t) ∨ CutsImportant b text t) := by
  have hfault := (estimateFault?_eq_none_iff text).2 hwhole
  obtain ⟨k, t, hfits, hcuts, ht⟩ := enforceCap_of_lt hcap hfault hover
  refine ⟨t, enforces_of_eq ht, ?_⟩
  by_cases hle : (b.estimate (keptText text k) : Int) ≤ b.perFileCap
  · obtain rfl := hcuts.eq_of_le hle
    exact .inl ⟨k, takesRemarks_of_fits hfits⟩
  · exact .inr (cutsImportant_of_cutsDown hcap hfits hcuts (Int.not_le.1 hle))

end

theorem enforceCap_keeps_tight :
    letI : StandIns := ⟨.besides []⟩
    tight.perFileCap < tight.estimate "+total = 1\n# done\n# and checked" ∧
      ∃ t, Enforces tight "+total = 1\n# done\n# and checked" (.ok t) ∧
        ((∃ k, TakesRemarks tight "+total = 1\n# done\n# and checked" k t) ∨
          CutsImportant tight "+total = 1\n# done\n# and checked" t) := by
  let _ : StandIns := ⟨.besides []⟩
  have hover : tight.perFileCap < tight.estimate "+total = 1\n# done\n# and checked" := by
    decide +kernel
  exact ⟨hover, enforceCap_keeps tight (by decide) _ (isWhole_of_isAssigned (by decide +kernel))
    hover⟩

/-- The first comment fits in behind the change. -/
example :
    letI : StandIns := ⟨.besides []⟩
    tight.enforceCap "+total = 1\n# done\n# and checked" = .ok "+total = 1\n# done" := by
  decide +kernel

end PatchReview.Budget
