import PatchReview.Journal

/-! Running work that keeps a journal.

`Logged.run` is what some work comes to behind a journal that is there already. It is computed part
by part: what follows a part runs behind what the part has written, if the part has a result, and
otherwise not at all (`run_bind`). -/
namespace PatchReview.Logged

variable {α β : Type}

/-- The result of some work behind a journal, and the journal then. -/
def run (work : Logged α) (journal : Journal) : Outcome α × Journal :=
  StateT.run (ExceptT.run work) journal

theorem result_eq_run (work : Logged α) : work.result = run work [] := rfl

theorem run_pure (a : α) (j : Journal) : run (pure a) j = (.ok a, j) := rfl

theorem run_record (e : Event) (j : Journal) : run (record e) j = (.ok (), j ++ [e]) := rfl

/-- Work that writes nothing. -/
theorem run_liftM (outcome : Outcome α) (j : Journal) :
    run (liftM outcome : Logged α) j = (outcome, j) := rfl

theorem run_bind (work : Logged α) (next : α → Logged β) (j : Journal) :
    run (work >>= next) j =
      match run work j with
      | (.ok a, j') => run (next a) j'
      | (.error e, j') => (.error e, j') := by
  unfold run ExceptT.run StateT.run
  simp only [bind, ExceptT.bind, ExceptT.mk, ExceptT.bindCont, StateT.bind]
  obtain ⟨result, j'⟩ : Outcome α × Journal := work j
  cases result <;> rfl

theorem run_bind_eq_ok_iff {work : Logged α} {next : α → Logged β} {j j' : Journal} {b : β} :
    run (work >>= next) j = (.ok b, j') ↔
      ∃ a mid, run work j = (.ok a, mid) ∧ run (next a) mid = (.ok b, j') := by
  rw [run_bind]
  rcases run work j with ⟨_ | a, mid⟩
  · simp
  · constructor
    · exact fun h => ⟨a, mid, rfl, h⟩
    · rintro ⟨a', mid', hfirst, h⟩
      cases hfirst
      exact h

theorem run_bind_eq_error_iff {work : Logged α} {next : α → Logged β} {j j' : Journal}
    {e : Failure} :
    run (work >>= next) j = (.error e, j') ↔
      run work j = (.error e, j') ∨
        ∃ a mid, run work j = (.ok a, mid) ∧ run (next a) mid = (.error e, j') := by
  rw [run_bind]
  rcases run work j with ⟨_ | a, mid⟩
  · simp
  · constructor
    · exact fun h => .inr ⟨a, mid, rfl, h⟩
    · intro h
      rcases h with h | ⟨a', mid', hfirst, h⟩
      · exact absurd (Prod.mk.inj h).1 (by simp)
      · cases hfirst
        exact h

/-- A check in front of some work writes nothing. -/
theorem run_liftM_bind_eq_ok_iff {outcome : Outcome α} {next : α → Logged β} {j j' : Journal}
    {b : β} :
    run ((liftM outcome : Logged α) >>= next) j = (.ok b, j') ↔
      ∃ a, outcome = .ok a ∧ run (next a) j = (.ok b, j') := by
  rw [run_bind_eq_ok_iff]
  simp only [run_liftM, Prod.mk.injEq]
  constructor
  · rintro ⟨a, mid, ⟨ha, rfl⟩, h⟩
    exact ⟨a, ha, h⟩
  · rintro ⟨a, ha, h⟩
    exact ⟨a, j, ⟨ha, rfl⟩, h⟩

/-- Work that has nowhere to stop comes to an end. -/
theorem exists_ok_of_not_error {work : Logged α} {stops : Failure → Prop}
    (h : ∀ e j, work.result = (.error e, j) → stops e) (hnone : ∀ e, ¬stops e) :
    ∃ a j, work.result = (.ok a, j) := by
  rcases hresult : work.result with ⟨result, j⟩
  cases result with
  | error e => exact absurd (h e j hresult) (hnone e)
  | ok a => exact ⟨a, j, rfl⟩

end PatchReview.Logged
