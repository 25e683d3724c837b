import Mathlib.Algebra.GroupWithZero.Nat
import Mathlib.Data.List.Induction
import PatchReview.Keyed

/-! Tables that are filled with the elements of a list, one after the other.

`tally` takes every element into the value of its key. The keys are those of the elements, each once
(`mem_keys_tally`, `nodup_keys_tally`), and a value is made of the elements with its key alone, in
their order (`eq_of_mem_tally`). Where values are lists of elements or counts of them, nothing is
lost between the keys and nothing is there twice (`flatMap_tally_perm`, `sum_tally`). -/
namespace PatchReview.Keyed

variable {α : Type} {κ : Type} {β : Type} [DecidableEq κ]

/-- The elements of a list taken one after the other into a table, each under its key. -/
def tally (key : α → κ) (add : α → Option β → β) (l : List α) : Keyed κ β :=
  l.foldl (fun table a => alter (key a) (add a) table) []

section
variable (key : α → κ) (add : α → Option β → β)

theorem tally_concat (l : List α) (a : α) :
    tally key add (l ++ [a]) = alter (key a) (add a) (tally key add l) := by
  rw [tally, List.foldl_append]
  rfl

theorem nodup_keys_tally (l : List α) : (keys (tally key add l)).Nodup := by
  induction l using List.reverseRecOn with
  | nil => exact List.nodup_nil
  | append_singleton l a ih =>
    rw [tally_concat]
    exact nodup_keys_alter _ _ ih

theorem mem_keys_tally {k : κ} {l : List α} :
    k ∈ keys (tally key add l) ↔ ∃ a ∈ l, key a = k := by
  induction l using List.reverseRecOn with
  | nil => simp [tally, keys]
  | append_singleton l a ih =>
    rw [tally_concat, mem_keys_alter, ih]
    simp [or_and_right, exists_or, eq_comm]

end

section
variable {key : α → κ} {add : α → Option β → β} (total : List α → β)

/-- The value of a key is made of the elements that have it, if there are any. -/
theorem get?_tally (hfirst : ∀ a, add a none = total [a])
    (hmore : ∀ a l, l ≠ [] → add a (some (total l)) = total (l ++ [a])) (k : κ) (l : List α) :
    get? k (tally key add l) =
      if l.filter (key · = k) = [] then none else some (total (l.filter (key · = k))) := by
  induction l using List.reverseRecOn with
  | nil => rfl
  | append_singleton l a ih =>
    rw [tally_concat, List.filter_append]
    by_cases hk : key a = k
    · subst hk
      rw [get?_alter_self, ih]
      split
      · rename_i hnone
        simp [hnone, hfirst]
      · rename_i hsome
        simp [hmore a _ hsome]
    · rw [get?_alter_of_ne (Ne.symm hk), ih]
      simp [hk]

theorem eq_of_mem_tally (hfirst : ∀ a, add a none = total [a])
    (hmore : ∀ a l, l ≠ [] → add a (some (total l)) = total (l ++ [a])) {l : List α} {e : κ × β}
    (h : e ∈ tally key add l) : e.2 = total (l.filter (key · = e.1)) := by
  have hget := get?_of_mem (nodup_keys_tally key add l) h
  rw [get?_tally total hfirst hmore] at hget
  split at hget
  · exact absurd hget (by simp)
  · exact (Option.some.inj hget).symm

end

/-! ### Lists and counts of elements -/

/-- One element more, behind those that are there. -/
def addTo (a : α) (old : Option (List α)) : List α := old.getD [] ++ [a]

theorem flatMap_alter_addTo_perm (k : κ) (a : α) (table : Keyed κ (List α)) :
    ((alter k (addTo a) table).flatMap (·.2)).Perm (table.flatMap (·.2) ++ [a]) := by
  induction table with
  | nil => simp [alter, addTo]
  | cons first rest ih =>
    obtain ⟨other, members⟩ := first
    by_cases h : other = k
    · simp only [alter, h, if_true, List.flatMap_cons, addTo, Option.getD_some, List.append_assoc]
      exact List.perm_append_comm.append_left members
    · simp only [alter, h, if_false, List.flatMap_cons, List.append_assoc]
      exact ih.append_left members

/-- Every element of a list is under one key, as often as it is in the list. -/
theorem flatMap_tally_perm (key : α → κ) (l : List α) :
    ((tally key addTo l).flatMap (·.2)).Perm l := by
  induction l using List.reverseRecOn with
  | nil => exact List.Perm.nil
  | append_singleton l a ih =>
    rw [tally_concat]
    exact (flatMap_alter_addTo_perm _ _ _).trans (ih.append_right [a])

/-- One element more is counted, whichever it is. -/
def countOn (_ : α) (old : Option Nat) : Nat := old.getD 0 + 1

theorem sum_alter_countOn (k : κ) (a : α) (table : Keyed κ Nat) :
    ((alter k (countOn a) table).map (·.2)).sum = (table.map (·.2)).sum + 1 := by
  induction table with
  | nil => simp [alter, countOn]
  | cons first rest ih =>
    obtain ⟨other, n⟩ := first
    by_cases h : other = k
    · simp [alter, h, countOn]
      omega
    · simp [alter, h, ih]
      omega

/-- The counts of all keys together are those of the whole list. -/
theorem sum_tally (key : α → κ) (l : List α) :
    ((tally key countOn l).map (·.2)).sum = l.length := by
  induction l using List.reverseRecOn with
  | nil => rfl
  | append_singleton l a ih =>
    rw [tally_concat, sum_alter_countOn, ih, List.length_append]
    rfl

/-! ### Tables in order -/

omit [DecidableEq κ] in
/-- The keys of a sorted table stand in order, and no two of them are the same. -/
theorem pairwise_keys_mergeSort (before : κ → κ → Bool)
    (htrans : ∀ a b c, before a b = true → before b c = true → before a c = true)
    (htotal : ∀ a b, (before a b || before b a) = true) {table : Keyed κ β}
    (h : (keys table).Nodup) :
    (keys (table.mergeSort fun a b => before a.1 b.1)).Pairwise
      fun a b => before a b = true ∧ a ≠ b := by
  have hsorted : (table.mergeSort fun a b => before a.1 b.1).Pairwise
      fun a b => before a.1 b.1 = true :=
    List.pairwise_mergeSort (fun a b c => htrans a.1 b.1 c.1) (fun a b => htotal a.1 b.1) table
  have hnodup : (keys (table.mergeSort fun a b => before a.1 b.1)).Nodup :=
    ((List.mergeSort_perm table _).map _).nodup_iff.2 h
  exact (List.pairwise_map.2 hsorted).and hnodup

end PatchReview.Keyed
