import PatchReview.Glob.Path

/-! Paths as patterns see them: with slashes for backslashes, and as a rule without newlines, so
that nothing may be left at the end. -/
namespace PatchReview.Glob

theorem atPathEnd_iff {s : List Char} (h : '\n' ∉ s) : atPathEnd s = true ↔ s = [] := by
  cases s with
  | nil => simp [atPathEnd]
  | cons c s =>
    have hc : c ≠ '\n' := fun e => h (e ▸ List.mem_cons_self)
    simp [atPathEnd, hc]

theorem unifySeparators_of_notMem {s : List Char} (h : '\\' ∉ s) : unifySeparators s = s := by
  have hkeep : ∀ c ∈ s, (if c == '\\' then '/' else c) = id c := by
    intro c hc
    have hne : c ≠ '\\' := fun e => h (e ▸ hc)
    simp [hne]
  rw [unifySeparators, List.map_congr_left hkeep, List.map_id]

theorem backslash_notMem_unifySeparators (s : List Char) : '\\' ∉ unifySeparators s := by
  rw [unifySeparators, List.mem_map]
  rintro ⟨c, -, hc⟩
  split at hc
  · exact absurd hc (by decide)
  · rename_i hne
    exact hne (beq_iff_eq.2 hc)

/-- Other characters are as they were. -/
theorem mem_unifySeparators_iff {c : Char} (hslash : c ≠ '/') (hback : c ≠ '\\') (s : List Char) :
    c ∈ unifySeparators s ↔ c ∈ s := by
  rw [unifySeparators, List.mem_map]
  constructor
  · rintro ⟨d, hd, hc⟩
    split at hc
    · exact absurd hc.symm hslash
    · exact hc ▸ hd
  · exact fun hc => ⟨c, hc, if_neg fun e => hback (beq_iff_eq.1 e)⟩

end PatchReview.Glob
