import Mathlib.Data.List.Induction
import PatchReview.Policy.Selection

/-! Findings within their quotas.

A finding passes if the findings that passed before it leave room for it: fewer of its file and
fewer of its severity than the limits say (`Room`). So the quotas are settled finding by finding
(`passed_concat_of_room`, `passed_concat_of_not_room`), and no more findings of a file or of a
severity pass than there may be (`count_passed_le`). Of a file as many pass as there may be, unless
a severity keeps them back (`count_file_passed`). -/
namespace PatchReview.PolicySettings

open Text

/-! ### Counts -/

theorem countOf_countUp (key other : String) (counts : Keyed String Nat) :
    countOf other (countUp key counts) = countOf other counts + if key = other then 1 else 0 := by
  by_cases h : key = other
  · rw [countOf, countUp, h, Keyed.get?_alter_self, if_pos rfl]
    rfl
  · rw [countOf, countUp, Keyed.get?_alter_of_ne (Ne.symm h), if_neg h]
    rfl

/-- Counts keys one after the other. -/
def countAll (keys : List String) (counts : Keyed String Nat) : Keyed String Nat :=
  keys.foldl (fun counts key => countUp key counts) counts

theorem countOf_countAll (keys : List String) (other : String) (counts : Keyed String Nat) :
    countOf other (countAll keys counts) = countOf other counts + keys.count other := by
  induction keys generalizing counts with
  | nil => rfl
  | cons key rest ih =>
    have hstep : countAll (key :: rest) counts = countAll rest (countUp key counts) := rfl
    rw [hstep, ih, countOf_countUp, List.count_cons]
    simp only [beq_iff_eq]
    omega

variable {ν : Type}

/-- The severity by which quotas go. -/
def severityKey (f : FindingOf ν) : String := lower f.severity

/-- What is taken up once some findings have passed. -/
def Usage.after (usage : Usage) (kept : List (FindingOf ν)) : Usage :=
  ⟨countAll (kept.map (·.file)) usage.files, countAll (kept.map severityKey) usage.severities⟩

/-! ### Room -/

variable (p : PolicySettings)

/-- How many findings of a severity there may be. -/
def limitOf (severity : String) : Int := (p.severityLimits.get? severity).getD unlimited

/-- The findings that passed leave room for another one. -/
structure Room (kept : List (FindingOf ν)) (f : FindingOf ν) : Prop where
  file_lt : ((kept.map (·.file)).count f.file : Int) < p.maxPerFile
  severity_lt : ((kept.map severityKey).count (severityKey f) : Int) < p.limitOf (severityKey f)

theorem hasRoom_after_iff (kept : List (FindingOf ν)) (f : FindingOf ν) :
    p.hasRoom (Usage.after ⟨[], []⟩ kept) f = true ↔ p.Room kept f := by
  have hroom : p.hasRoom (Usage.after ⟨[], []⟩ kept) f = true ↔
      (countOf f.file (countAll (kept.map (·.file)) []) : Int) < p.maxPerFile ∧
        (countOf (severityKey f) (countAll (kept.map severityKey) []) : Int) <
          p.limitOf (severityKey f) := by
    rw [hasRoom, Bool.and_eq_true, decide_eq_true_eq, decide_eq_true_eq]
    rfl
  have hzero (key : String) : countOf key [] = 0 := rfl
  rw [hroom, countOf_countAll, countOf_countAll, hzero, hzero, Nat.zero_add, Nat.zero_add]
  exact ⟨fun h => ⟨h.1, h.2⟩, fun h => ⟨h.file_lt, h.severity_lt⟩⟩

/-! ### The findings that pass -/

/-- The findings that find room in the quotas. -/
def passed (findings : List (FindingOf ν)) : List (FindingOf ν) :=
  p.withinQuotas ⟨[], []⟩ findings

theorem withinQuotas_append (usage : Usage) (a b : List (FindingOf ν)) :
    p.withinQuotas usage (a ++ b) =
      p.withinQuotas usage a ++ p.withinQuotas (usage.after (p.withinQuotas usage a)) b := by
  induction a generalizing usage with
  | nil => rfl
  | cons f rest ih =>
    rw [List.cons_append, withinQuotas, withinQuotas]
    split
    · exact congrArg (f :: ·) (ih (usage.after [f]))
    · exact ih usage

theorem passed_concat_of_room {before : List (FindingOf ν)} {f : FindingOf ν}
    (h : p.Room (p.passed before) f) : p.passed (before ++ [f]) = p.passed before ++ [f] := by
  have hroom := (p.hasRoom_after_iff (p.passed before) f).2 h
  rw [passed, passed, withinQuotas_append, withinQuotas]
  exact congrArg _ (if_pos hroom)

theorem passed_concat_of_not_room {before : List (FindingOf ν)} {f : FindingOf ν}
    (h : ¬p.Room (p.passed before) f) : p.passed (before ++ [f]) = p.passed before := by
  have hroom : ¬p.hasRoom (Usage.after ⟨[], []⟩ (p.passed before)) f = true :=
    fun hr => h ((p.hasRoom_after_iff _ f).1 hr)
  rw [passed, passed, withinQuotas_append, withinQuotas]
  exact (congrArg _ (if_neg hroom)).trans (List.append_nil _)

theorem passed_prefix_append (before after : List (FindingOf ν)) :
    p.passed before <+: p.passed (before ++ after) := by
  rw [passed, passed, withinQuotas_append]
  exact List.prefix_append _ _

theorem withinQuotas_sublist (usage : Usage) (findings : List (FindingOf ν)) :
    (p.withinQuotas usage findings).Sublist findings := by
  induction findings generalizing usage with
  | nil => exact .slnil
  | cons f rest ih =>
    rw [withinQuotas]
    split
    · exact (ih _).cons_cons f
    · exact (ih usage).cons f

theorem passed_sublist (findings : List (FindingOf ν)) : (p.passed findings).Sublist findings :=
  p.withinQuotas_sublist _ findings

/-- Behind the findings that pass of some, those that pass of more are more. -/
theorem exists_passed_append (before after : List (FindingOf ν)) :
    ∃ more, more.Sublist after ∧ p.passed (before ++ after) = p.passed before ++ more := by
  rw [passed, passed, withinQuotas_append]
  exact ⟨_, p.withinQuotas_sublist _ after, rfl⟩

/-- Of each kind no more findings pass than there may be, where room for one means that there are
fewer. -/
theorem count_passed_le (key : FindingOf ν → String) (limit : String → Int)
    (hkey : ∀ kept f, p.Room kept f → ((kept.map key).count (key f) : Int) < limit (key f))
    (findings : List (FindingOf ν)) (k : String) :
    (((p.passed findings).map key).count k : Int) ≤ max 0 (limit k) := by
  induction findings using List.reverseRecOn with
  | nil => exact Int.le_max_left _ _
  | append_singleton before f ih =>
    by_cases h : p.Room (p.passed before) f
    · have hlt := hkey _ f h
      rw [p.passed_concat_of_room h, List.map_append, List.map_singleton, List.count_append,
        List.count_singleton]
      split
      · rename_i hk
        obtain rfl := beq_iff_eq.1 hk
        omega
      · exact ih
    · rwa [p.passed_concat_of_not_room h]

/-- As long as the quotas of severities are not used up, the findings of a file pass up to the limit
on a file. -/
theorem count_file_passed {findings : List (FindingOf ν)}
    (h : ∀ severity, ((findings.map severityKey).count severity : Int) ≤ p.limitOf severity)
    (file : String) :
    ((p.passed findings).map (·.file)).count file =
      min p.maxPerFile.toNat ((findings.map (·.file)).count file) := by
  induction findings using List.reverseRecOn with
  | nil => exact (Nat.min_zero _).symm
  | append_singleton before f ih =>
    have hbefore : ∀ severity,
        ((before.map severityKey).count severity : Int) ≤ p.limitOf severity := by
      intro severity
      have hcount := h severity
      rw [List.map_append, List.count_append] at hcount
      omega
    have hpassed := ih hbefore
    rw [List.map_append, List.map_singleton, List.count_append, List.count_singleton]
    have hroom : p.Room (p.passed before) f ↔
        (((p.passed before).map (·.file)).count f.file : Int) < p.maxPerFile := by
      refine ⟨fun hr => hr.file_lt, fun hfile => ⟨hfile, ?_⟩⟩
      have hle := ((p.passed_sublist before).map severityKey).count_le (severityKey f)
      have hcount := h (severityKey f)
      rw [List.map_append, List.map_singleton, List.count_append, List.count_singleton_self]
        at hcount
      omega
    by_cases hr : p.Room (p.passed before) f
    · have hlt := hroom.1 hr
      rw [p.passed_concat_of_room hr, List.map_append, List.map_singleton, List.count_append,
        List.count_singleton]
      split
      · rename_i hfile
        obtain rfl := beq_iff_eq.1 hfile
        omega
      · omega
    · have hge := mt hroom.2 hr
      rw [p.passed_concat_of_not_room hr]
      split
      · rename_i hfile
        obtain rfl := beq_iff_eq.1 hfile
        omega
      · omega

end PatchReview.PolicySettings
