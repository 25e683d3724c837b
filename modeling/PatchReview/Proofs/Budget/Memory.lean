import Mathlib.Data.List.Induction
import PatchReview.Budget.Memo

/-! A memory of estimates does not show.

A memory holds the estimates of the texts that were asked for so far (`memoOf`). If the digests of
these texts are different, an estimate that is remembered is the one that would be made
(`run_estimateWithMemo`). The steps of `enforce` are the same with a memory, without one, and where
only the questions are noted (`Follows`), so that the text that is kept is the same, too
(`enforces_of_eq`). -/
namespace PatchReview

/-- A key that has its value already is not changed. -/
theorem Keyed.put_of_get? {κ : Type u} {α : Type v} [DecidableEq κ] {key : κ} {a : α}
    {entries : Keyed κ α} (h : get? key entries = some a) : put key a entries = entries := by
  induction entries with
  | nil => exact absurd h (Option.some_ne_none a).symm
  | cons e rest ih =>
    obtain ⟨k, old⟩ := e
    by_cases hk : k = key
    · rw [get?, if_pos hk] at h
      rw [put, alter, if_pos hk, Option.some.inj h]
    · rw [get?, if_neg hk] at h
      rw [put, alter, if_neg hk]
      exact congrArg (List.cons (k, old)) (ih h)

namespace Budget

/-- Some texts are told apart by their digests. -/
def ToldApart (texts : List String) : Prop :=
  ∀ s ∈ texts, ∀ t ∈ texts, digestOf s = digestOf t → s = t

instance (texts : List String) : Decidable (ToldApart texts) :=
  inferInstanceAs (Decidable (∀ s ∈ texts, ∀ t ∈ texts, digestOf s = digestOf t → s = t))

theorem ToldApart.of_subset {texts more : List String} (h : ToldApart more) (hsub : texts ⊆ more) :
    ToldApart texts :=
  fun s hs t ht he => h s (hsub hs) t (hsub ht) he

/-! ### One estimate -/

/-- The memory of the estimates of some texts. -/
def memoOf (b : Budget) (texts : List String) : Memo :=
  Keyed.ofList (texts.map fun text => (digestOf text, b.estimate text))

theorem memoOf_concat (b : Budget) (texts : List String) (text : String) :
    b.memoOf (texts ++ [text]) = (b.memoOf texts).put (digestOf text) (b.estimate text) := by
  simp only [memoOf, Keyed.ofList, List.map_append, List.map_cons, List.map_nil, List.foldl_append,
    List.foldl_cons, List.foldl_nil]

/-- A memory knows exactly the texts that it was asked for. -/
theorem get?_memoOf (b : Budget) {texts : List String} {text : String}
    (h : ToldApart (texts ++ [text])) :
    (b.memoOf texts).get? (digestOf text) =
      if text ∈ texts then some (b.estimate text) else none := by
  induction texts using List.reverseRecOn with
  | nil => rfl
  | append_singleton texts last ih =>
    have hsub : texts ++ [text] ⊆ texts ++ [last] ++ [text] :=
      List.append_subset.2 ⟨fun t ht => by simp [ht], by simp⟩
    rw [memoOf_concat]
    by_cases hlast : last = text
    · subst hlast
      rw [Keyed.put, Keyed.get?_alter_self, if_pos (by simp)]
    · have hdigest : digestOf text ≠ digestOf last := fun he =>
        hlast (h last (by simp) text (by simp) he.symm)
      have hmem : text ∈ texts ++ [last] ↔ text ∈ texts := by simp [Ne.symm hlast]
      rw [Keyed.put, Keyed.get?_alter_of_ne hdigest, ih (h.of_subset hsub)]
      simp only [hmem]

/-- A remembered estimate is the one that would be made. -/
theorem run_estimateWithMemo (b : Budget) {texts : List String} {text : String}
    (h : ToldApart (texts ++ [text])) : (b.estimateWithMemo text).run (b.memoOf texts) =
      (b.estimate text, b.memoOf (texts ++ [text])) := by
  have hget := b.get?_memoOf h
  split at hget
  · rw [memoOf_concat, Keyed.put_of_get? hget]
    simp only [estimateWithMemo, StateT.run_bind, StateT.run_get, pure_bind, hget]
    rfl
  · rw [memoOf_concat]
    simp only [estimateWithMemo, StateT.run_bind, StateT.run_get, pure_bind, hget]
    rfl

/-! ### All steps -/

/-- The estimate of a text, which is noted. -/
def estimateNoting (b : Budget) (text : String) : StateM (List String) Nat := do
  modify (· ++ [text])
  return b.estimate text

/-- Steps that remember estimates do what steps do that only note the texts they ask for. -/
structure Follows (b : Budget) {α : Type} (remembering : StateM Memo α)
    (noting : StateM (List String) α) (value : α) : Prop where
  noting_eq : ∀ texts, (noting.run texts).1 = value
  subset : ∀ texts, texts ⊆ (noting.run texts).2
  remembering_eq : ∀ texts, ToldApart (noting.run texts).2 →
    remembering.run (b.memoOf texts) = (value, b.memoOf (noting.run texts).2)

section
variable {b : Budget} {α β : Type}

theorem follows_pure (a : α) : Follows b (pure a) (pure a) a :=
  ⟨fun _ => rfl, fun _ => List.Subset.refl _, fun _ _ => rfl⟩

theorem Follows.bind {remembering : StateM Memo α} {noting : StateM (List String) α} {a : α}
    (h : Follows b remembering noting a) {f : α → StateM Memo β} {g : α → StateM (List String) β}
    {c : β} (hnext : Follows b (f a) (g a) c) : Follows b (remembering >>= f) (noting >>= g) c := by
  have hrun : ∀ texts, (noting >>= g).run texts = (g a).run (noting.run texts).2 := fun texts => by
    rw [StateT.run_bind, ← h.noting_eq texts]
    rfl
  refine ⟨fun texts => ?_, fun texts => ?_, fun texts hapart => ?_⟩
  · rw [hrun]
    exact hnext.noting_eq _
  · rw [hrun]
    exact List.Subset.trans (h.subset texts) (hnext.subset _)
  · rw [hrun] at hapart ⊢
    have hfirst := h.remembering_eq texts (hapart.of_subset (hnext.subset _))
    rw [StateT.run_bind, hfirst]
    exact hnext.remembering_eq _ hapart

theorem follows_estimate (b : Budget) (text : String) :
    Follows b (b.estimateWithMemo text) (b.estimateNoting text) (b.estimate text) :=
  ⟨fun _ => rfl, fun texts => List.subset_append_left texts [text],
    fun _ hapart => b.run_estimateWithMemo hapart⟩

theorem follows_addRemarks (cap : Int) (text : String) (tokens : Nat) (lines : List (List Char)) :
    Follows b (addRemarks b.estimateWithMemo cap text tokens lines)
      (addRemarks b.estimateNoting cap text tokens lines)
      (Id.run (addRemarks (fun s => pure (b.estimate s)) cap text tokens lines)) := by
  induction lines generalizing text tokens with
  | nil => exact follows_pure _
  | cons line rest ih =>
    simp only [addRemarks]
    refine (follows_estimate b _).bind ?_
    by_cases hover : cap < (b.estimate (withLine text line) : Int)
    · simp only [if_pos hover, pure_bind]
      exact follows_pure _
    · simp only [if_neg hover, pure_bind]
      exact ih _ _

theorem follows_shrink (cap : Int) (steps : Nat) (text : String) (tokens : Nat) :
    Follows b (shrink b.estimateWithMemo cap steps text tokens)
      (shrink b.estimateNoting cap steps text tokens)
      (Id.run (shrink (fun s => pure (b.estimate s)) cap steps text tokens)) := by
  induction steps generalizing text tokens with
  | zero => exact follows_pure _
  | succ steps ih =>
    simp only [shrink]
    split
    · exact follows_pure _
    · split
      · exact follows_pure _
      · split
        · exact follows_pure _
        · exact (follows_estimate b _).bind (ih _ _)

variable [Text.StandIns]

theorem follows_enforce (cap : Int) (text : String) :
    Follows b (enforce b.estimateWithMemo cap text) (enforce b.estimateNoting cap text)
      (Id.run (enforce (fun s => pure (b.estimate s)) cap text)) := by
  simp only [enforce]
  split
  · exact follows_pure _
  · refine (follows_estimate b text).bind ?_
    by_cases hle : (b.estimate text : Int) ≤ cap
    · simp only [if_pos hle, pure_bind]
      exact follows_pure _
    · simp only [if_neg hle, pure_bind, truncate]
      refine (follows_estimate b _).bind ?_
      exact (follows_addRemarks cap _ _ _).bind (follows_shrink cap _ _ _)

end

variable [Text.StandIns]

/-- The texts asked for so far, and those that the cap for a text asks for. -/
def asked (b : Budget) (text : String) (texts : List String) : List String :=
  ((enforce b.estimateNoting b.perFileCap text).run texts).2

/-- A result for a text, with a memory or without one. -/
structure Enforces (b : Budget) (text : String) (result : Outcome String) : Prop where
  afresh : b.enforceCap text = result
  remembering : ∀ texts, ToldApart (b.asked text texts) →
    (b.enforceCapWithMemo text).run (b.memoOf texts) = (result, b.memoOf (b.asked text texts))

theorem enforces_of_eq {b : Budget} {text : String} {result : Outcome String}
    (h : b.enforceCap text = result) : Enforces b text result := by
  refine ⟨h, fun texts hapart => ?_⟩
  rw [← h]
  exact (follows_enforce b.perFileCap text).remembering_eq texts hapart

end Budget

end PatchReview
