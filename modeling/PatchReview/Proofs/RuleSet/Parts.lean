import PatchReview.Proofs.Journal
import PatchReview.Proofs.Outcome
import PatchReview.Rule

/-! Loading rules part by part.

Loading something comes to a part of the rules and to events for what is passed over, or it breaks
off (`Settles`). Going through items, which comes to all of that in order or breaks off where the
first of them does, settles as one item does (`Settles.sequence`). -/
namespace PatchReview.RuleSet

open Logged Outcome

/-- What comes of loading something: rules, and what is written about what is passed over. -/
structure Part where
  rules : List Rule
  events : Journal

/-- Two parts one after the other. -/
def Part.append (p q : Part) : Part := ⟨p.rules ++ q.rules, p.events ++ q.events⟩

/-- Parts one after the other. -/
def joined (parts : List Part) : Part := ⟨parts.flatMap (·.rules), parts.flatMap (·.events)⟩

theorem joined_cons (part : Part) (parts : List Part) :
    joined (part :: parts) = part.append (joined parts) := rfl

/-- Work that comes to a part, or breaks off. -/
structure Settles (work : Logged (List Rule)) (ends : Part → Prop) (breaks : Failure → Prop) :
    Prop where
  ok_iff : ∀ rules j j', run work j = (.ok rules, j') ↔
    ∃ events, ends ⟨rules, events⟩ ∧ j' = j ++ events
  error_iff : ∀ e j, (∃ j', run work j = (.error e, j')) ↔ breaks e

namespace Settles

variable {work more : Logged (List Rule)} {ends ends' : Part → Prop}
  {breaks breaks' : Failure → Prop}

theorem congr (h : Settles work ends breaks) (hends : ∀ part, ends' part ↔ ends part)
    (hbreaks : ∀ e, breaks' e ↔ breaks e) : Settles work ends' breaks' where
  ok_iff rules j j' := by simp only [h.ok_iff, hends]
  error_iff e j := by rw [h.error_iff, hbreaks]

/-- Work that comes to one part and to no other. -/
theorem of_ok {part : Part} (hrun : ∀ j, run work j = (.ok part.rules, j ++ part.events))
    (hends : ends part) (honly : ∀ other, ends other → other = part) (hbreaks : ∀ e, ¬breaks e) :
    Settles work ends breaks where
  ok_iff rules j j' := by
    rw [hrun]
    constructor
    · intro h
      obtain ⟨hrules, rfl⟩ := Prod.mk.inj h
      obtain rfl := Except.ok.inj hrules
      exact ⟨part.events, hends, rfl⟩
    · intro h
      obtain ⟨events, hpart, rfl⟩ := h
      obtain rfl := honly _ hpart
      rfl
  error_iff e j := by simp [hrun, hbreaks]

/-- Work that breaks off with one failure and with no other. -/
theorem of_error {e : Failure} (hrun : ∀ j, run work j = (.error e, j)) (hends : ∀ part, ¬ends part)
    (hbreaks : breaks e) (honly : ∀ other, breaks other → other = e) :
    Settles work ends breaks where
  ok_iff rules j j' := by simp [hrun, hends]
  error_iff other j := by
    have hother : breaks other ↔ other = e := ⟨honly other, fun h => h ▸ hbreaks⟩
    simp [hrun, hother, eq_comm]

/-- A step that writes nothing. -/
theorem of_outcome (outcome : Outcome (List Rule)) :
    Settles (liftM outcome) (fun part => ∃ rules, outcome = .ok rules ∧ part = ⟨rules, []⟩)
      (outcome = .error ·) := by
  cases outcome with
  | ok rules =>
    have hrun (j : Journal) : run (liftM (Except.ok rules : Outcome _)) j = (.ok rules, j ++ []) := by
      rw [run_liftM, List.append_nil]
    exact .of_ok hrun ⟨rules, rfl, rfl⟩ (by simp) (by simp)
  | error e => exact .of_error (run_liftM _) (by simp) rfl (by simp [eq_comm])

/-- What is done with the result of a step that writes nothing. -/
theorem liftM_bind {α : Type} {outcome : Outcome α} {next : α → Logged (List Rule)}
    {ends : α → Part → Prop} {breaks : α → Failure → Prop}
    (hnext : ∀ a, Settles (next a) (ends a) (breaks a)) :
    Settles ((liftM outcome : Logged α) >>= next) (fun part => ∃ a, outcome = .ok a ∧ ends a part)
      fun e => outcome = .error e ∨ ∃ a, outcome = .ok a ∧ breaks a e where
  ok_iff rules j j' := by
    rw [run_liftM_bind_eq_ok_iff]
    constructor
    · intro h
      obtain ⟨a, ha, hrun⟩ := h
      obtain ⟨events, hends, hj⟩ := ((hnext a).ok_iff _ _ _).1 hrun
      exact ⟨events, ⟨a, ha, hends⟩, hj⟩
    · intro h
      obtain ⟨events, ⟨a, ha, hends⟩, hj⟩ := h
      exact ⟨a, ha, ((hnext a).ok_iff _ _ _).2 ⟨events, hends, hj⟩⟩
  error_iff e j := by
    rw [run_bind, run_liftM]
    cases outcome with
    | ok a => simp [← (hnext a).error_iff e j]
    | error cause => simp

/-- Work and more work, with the rules of both. -/
theorem append (h : Settles work ends breaks) (hmore : Settles more ends' breaks') :
    Settles (work >>= fun rules => more >>= fun others => pure (rules ++ others))
      (fun part => ∃ p q, ends p ∧ ends' q ∧ part = p.append q)
      fun e => breaks e ∨ (∃ p, ends p) ∧ breaks' e where
  ok_iff rules j j' := by
    rw [run_bind_eq_ok_iff]
    constructor
    · intro hrun
      obtain ⟨first, mid, hfirst, hrest⟩ := hrun
      obtain ⟨others, mid', hothers, hpure⟩ := run_bind_eq_ok_iff.1 hrest
      obtain ⟨events, hends, rfl⟩ := (h.ok_iff _ _ _).1 hfirst
      obtain ⟨events', hends', rfl⟩ := (hmore.ok_iff _ _ _).1 hothers
      obtain ⟨hrules, rfl⟩ := Prod.mk.inj hpure
      obtain rfl := Except.ok.inj hrules
      exact ⟨events ++ events', ⟨_, _, hends, hends', rfl⟩, List.append_assoc _ _ _⟩
    · intro hparts
      obtain ⟨events, ⟨p, q, hp, hq, hpart⟩, rfl⟩ := hparts
      obtain ⟨rfl, rfl⟩ := Part.mk.inj hpart
      refine ⟨p.rules, j ++ p.events, (h.ok_iff _ _ _).2 ⟨p.events, hp, rfl⟩, ?_⟩
      refine run_bind_eq_ok_iff.2 ⟨q.rules, j ++ p.events ++ q.events, ?_, ?_⟩
      · exact (hmore.ok_iff _ _ _).2 ⟨q.events, hq, rfl⟩
      · rw [run_pure, List.append_assoc]
  error_iff e j := by
    constructor
    · intro hrun
      obtain ⟨j', hrun⟩ := hrun
      rcases run_bind_eq_error_iff.1 hrun with hfirst | ⟨first, mid, hfirst, hrest⟩
      · exact .inl ((h.error_iff e j).1 ⟨j', hfirst⟩)
      · obtain ⟨events, hends, -⟩ := (h.ok_iff _ _ _).1 hfirst
        rcases run_bind_eq_error_iff.1 hrest with hothers | ⟨others, mid', -, hnone⟩
        · exact .inr ⟨⟨_, hends⟩, (hmore.error_iff e mid).1 ⟨j', hothers⟩⟩
        · exact absurd (Prod.mk.inj hnone).1 (by simp)
    · intro hbreaks
      rcases hbreaks with hbreaks | ⟨⟨p, hp⟩, hbreaks⟩
      · obtain ⟨j', hfirst⟩ := (h.error_iff e j).2 hbreaks
        exact ⟨j', run_bind_eq_error_iff.2 (.inl hfirst)⟩
      · obtain ⟨j', hothers⟩ := (hmore.error_iff e (j ++ p.events)).2 hbreaks
        refine ⟨j', run_bind_eq_error_iff.2 (.inr ⟨p.rules, j ++ p.events, ?_, ?_⟩)⟩
        · exact (h.ok_iff _ _ _).2 ⟨p.events, hp, rfl⟩
        · exact run_bind_eq_error_iff.2 (.inl hothers)

end Settles

section
variable {α : Type} {ends : α → Part → Prop} {breaks : α → Failure → Prop}

/-- What all of some items come to, if each comes to something. -/
def EndsAll (ends : α → Part → Prop) (items : List α) (part : Part) : Prop :=
  ∃ parts, List.Forall₂ ends items parts ∧ part = joined parts

theorem endsAll_nil (part : Part) : EndsAll ends [] part ↔ part = joined [] := by
  simp [EndsAll]

theorem endsAll_cons (a : α) (rest : List α) (part : Part) :
    EndsAll ends (a :: rest) part ↔ ∃ p q, ends a p ∧ EndsAll ends rest q ∧ part = p.append q := by
  constructor
  · intro h
    obtain ⟨_, hparts, rfl⟩ := h
    obtain ⟨p, parts, hp, hrest, rfl⟩ := List.forall₂_cons_left_iff.1 hparts
    exact ⟨p, joined parts, hp, ⟨parts, hrest, rfl⟩, joined_cons p parts⟩
  · intro h
    obtain ⟨p, _, hp, ⟨parts, hrest, rfl⟩, rfl⟩ := h
    exact ⟨p :: parts, .cons hp hrest, joined_cons p parts⟩

/-- Going through items settles as each of them does. -/
theorem Settles.sequence (one : α → Logged (List Rule)) (all : List α → Logged (List Rule))
    (hnil : all [] = pure [])
    (hcons : ∀ a rest, all (a :: rest) =
      one a >>= fun rules => all rest >>= fun others => pure (rules ++ others))
    (hone : ∀ a, Settles (one a) (ends a) (breaks a)) (items : List α) :
    Settles (all items) (EndsAll ends items)
      fun e => StopsAt (fun a => ∃ part, ends a part) (breaks · e) items := by
  induction items with
  | nil =>
    have hrun (j : Journal) :
        run (all []) j = (.ok (joined []).rules, j ++ (joined []).events) := by
      rw [hnil, run_pure]
      exact congrArg _ (List.append_nil j).symm
    exact .of_ok hrun ((endsAll_nil _).2 rfl) (fun part => (endsAll_nil part).1)
      fun e => not_stopsAt_nil _ _
  | cons a rest ih =>
    rw [hcons]
    exact ((hone a).append ih).congr (endsAll_cons a rest) fun e => stopsAt_cons_iff

end

end PatchReview.RuleSet
