import PatchReview.Proofs.Outcome
import PatchReview.Rule

/-! What rules find in some lines.

A rule finds fault with lines that are there, and the findings of several rules are findings of the
enabled ones among them (`exists_of_mem_findingsOfAll`). Matching a rule with a line has a result,
unless a group of the match ends before it starts (`findingsOfAll_eq_error`). -/
namespace PatchReview.Rule

variable [Text.StandIns]

theorem finds_eq_error {r : Rule} {line : String} {e : Failure} (h : r.finds line = .error e) :
    e = .crossedGroup := by
  unfold finds at h
  split at h
  · exact absurd h (by simp)
  · split at h
    · exact absurd h (by simp)
    · exact (Except.error.inj h).symm

theorem exists_of_mem_findings {r : Rule} {file : String} {lines : List AddedLine}
    {found : List Finding} (h : r.findings file lines = .ok found) {f : Finding} (hf : f ∈ found) :
    ∃ line ∈ lines, f = r.finding file line := by
  unfold findings at h
  split at h
  · obtain ⟨faulty, hfaulty, hfound⟩ := Outcome.bind_eq_ok_iff.1 h
    obtain rfl := Except.ok.inj hfound
    obtain ⟨line, hline, rfl⟩ := List.mem_map.1 hf
    exact ⟨line, Outcome.mem_of_mem_filterM hfaulty hline, rfl⟩
  · obtain rfl := Except.ok.inj h
    exact absurd hf List.not_mem_nil

theorem findings_eq_error {r : Rule} {file : String} {lines : List AddedLine} {e : Failure}
    (h : r.findings file lines = .error e) :
    e = .crossedGroup ∧ ∃ line ∈ lines, r.finds line.content = .error .crossedGroup := by
  unfold findings at h
  split at h
  · rcases Outcome.bind_eq_error_iff.1 h with hlines | ⟨faulty, -, hnone⟩
    · obtain ⟨line, hline, he⟩ := Outcome.exists_of_filterM_eq_error hlines
      obtain rfl := finds_eq_error he
      exact ⟨rfl, line, hline, he⟩
    · exact absurd hnone (by simp [pure, Except.pure])
  · exact absurd h (by simp [pure, Except.pure])

theorem exists_of_mem_findingsOfAll {rules : List Rule} {file : String} {lines : List AddedLine}
    {found : List Finding} (h : findingsOfAll rules file lines = .ok found) {f : Finding}
    (hf : f ∈ found) :
    ∃ r ∈ rules, r.enabled = true ∧ ∃ line ∈ lines, f = r.finding file line := by
  obtain ⟨parts, hparts, hfound⟩ := Outcome.bind_eq_ok_iff.1 h
  obtain rfl := Except.ok.inj hfound
  obtain ⟨part, hpart, hfpart⟩ := List.mem_flatten.1 hf
  obtain ⟨r, hr, hfindings⟩ := Outcome.exists_of_mem_mapM hparts hpart
  have ⟨hmem, henabled⟩ := List.mem_filter.1 hr
  exact ⟨r, hmem, henabled, exists_of_mem_findings hfindings hfpart⟩

theorem findingsOfAll_eq_error {rules : List Rule} {file : String} {lines : List AddedLine}
    {e : Failure} (h : findingsOfAll rules file lines = .error e) :
    e = .crossedGroup ∧ ∃ r ∈ rules, r.enabled = true ∧
      ∃ line ∈ lines, r.finds line.content = .error .crossedGroup := by
  rcases Outcome.bind_eq_error_iff.1 h with hparts | ⟨parts, -, hnone⟩
  · obtain ⟨r, hr, hfindings⟩ := Outcome.exists_of_mapM_eq_error hparts
    have ⟨hmem, henabled⟩ := List.mem_filter.1 hr
    have ⟨he, hline⟩ := findings_eq_error hfindings
    exact ⟨he, r, hmem, henabled, hline⟩
  · exact absurd hnone (by simp [pure, Except.pure])

end PatchReview.Rule
