/-! Association lists in the order in which their keys first came.

`alter` changes the value of a key: an old key keeps its place, a new one goes to the end.
`keys_alter` says what that does to the keys, `get?_alter_self` and `get?_alter_of_ne` what
it does to a look-up; `put` is the case that forgets the old value. A table made from entries
has each key once (`nodup_keys_ofList`) and finds its last value (`get?_ofList`). -/
namespace PatchReview

/-- Keys with their values, in the order in which the keys first came. -/
abbrev Keyed (κ : Type u) (α : Type v) := List (κ × α)

namespace Keyed
variable {κ : Type u} {α : Type v} [DecidableEq κ]

def keys (entries : Keyed κ α) : List κ := entries.map (·.1)

/-- The value of a key. -/
def get? (key : κ) : Keyed κ α → Option α
  | [] => none
  | (k, a) :: rest => if k = key then some a else get? key rest

/-- Changes the value of a key, absent or present. -/
def alter (key : κ) (f : Option α → α) : Keyed κ α → Keyed κ α
  | [] => [(key, f none)]
  | (k, a) :: rest => if k = key then (k, f (some a)) :: rest else (k, a) :: alter key f rest

/-- Gives a key its value. -/
def put (key : κ) (a : α) (entries : Keyed κ α) : Keyed κ α := alter key (fun _ => a) entries

/-- The table with the entries put one after the other. -/
def ofList (entries : List (κ × α)) : Keyed κ α := entries.foldl (fun t (k, a) => put k a t) []

/-! ### Look-up and order -/

theorem get?_alter_self (key : κ) (f : Option α → α) (entries : Keyed κ α) :
    get? key (alter key f entries) = some (f (get? key entries)) := by
  induction entries with
  | nil => simp [alter, get?]
  | cons e rest ih =>
    obtain ⟨k, a⟩ := e
    by_cases h : k = key <;> simp [alter, get?, h, ih]

theorem get?_alter_of_ne {key other : κ} (hne : other ≠ key) (f : Option α → α)
    (entries : Keyed κ α) : get? other (alter key f entries) = get? other entries := by
  induction entries with
  | nil => simp [alter, get?, hne.symm]
  | cons e rest ih =>
    obtain ⟨k, a⟩ := e
    by_cases h : k = key
    · have : k ≠ other := fun e => hne (e.symm.trans h)
      simp [alter, get?, h, hne.symm]
    · simp [alter, get?, h, ih]

theorem keys_alter (key : κ) (f : Option α → α) (entries : Keyed κ α) :
    keys (alter key f entries) =
      if key ∈ keys entries then keys entries else keys entries ++ [key] := by
  induction entries with
  | nil => simp [alter, keys]
  | cons e rest ih =>
    obtain ⟨k, a⟩ := e
    by_cases h : k = key
    · simp [alter, keys, h]
    · simp only [keys] at ih
      simp only [alter, h, if_false, keys, List.map_cons, ih, List.mem_cons, Ne.symm h, false_or]
      split <;> simp_all

/-- An entry after a change is an old one, or has the key and a value that was changed. -/
theorem mem_alter {key : κ} {f : Option α → α} {entries : Keyed κ α} {e : κ × α}
    (h : e ∈ alter key f entries) :
    e ∈ entries ∨ (e.1 = key ∧ (e.2 = f none ∨ ∃ a, (key, a) ∈ entries ∧ e.2 = f (some a))) := by
  induction entries with
  | nil =>
    rw [alter, List.mem_singleton] at h
    exact .inr (h ▸ ⟨rfl, .inl rfl⟩)
  | cons first rest ih =>
    obtain ⟨k, old⟩ := first
    by_cases hk : k = key
    · subst hk
      rw [alter, if_pos rfl, List.mem_cons] at h
      rcases h with rfl | h
      · exact .inr ⟨rfl, .inr ⟨old, List.mem_cons_self, rfl⟩⟩
      · exact .inl (List.mem_cons_of_mem _ h)
    · rw [alter, if_neg hk, List.mem_cons] at h
      rcases h with rfl | h
      · exact .inl List.mem_cons_self
      · rcases ih h with h | ⟨hkey, h | ⟨a, ha, h⟩⟩
        · exact .inl (List.mem_cons_of_mem _ h)
        · exact .inr ⟨hkey, .inl h⟩
        · exact .inr ⟨hkey, .inr ⟨a, List.mem_cons_of_mem _ ha, h⟩⟩

theorem mem_put {key : κ} {a : α} {entries : Keyed κ α} {e : κ × α}
    (h : e ∈ put key a entries) : e = (key, a) ∨ e ∈ entries := by
  rcases mem_alter h with h | ⟨hkey, h | ⟨_, _, h⟩⟩
  · exact .inr h
  · exact .inl (Prod.ext hkey h)
  · exact .inl (Prod.ext hkey h)

theorem mem_foldl_put {entries : List (κ × α)} {table : Keyed κ α} {e : κ × α}
    (h : e ∈ entries.foldl (fun t (k, a) => put k a t) table) : e ∈ table ∨ e ∈ entries := by
  induction entries generalizing table with
  | nil => exact .inl h
  | cons first rest ih =>
    rcases ih h with h | h
    · rcases mem_put h with rfl | h
      · exact .inr List.mem_cons_self
      · exact .inl h
    · exact .inr (List.mem_cons_of_mem _ h)

/-- Of several values put for a key the last one stays. -/
theorem get?_foldl_put (key : κ) (entries : List (κ × α)) (table : Keyed κ α) :
    get? key (entries.foldl (fun t (k, a) => put k a t) table) =
      ((entries.filter (·.1 = key)).getLast?.map (·.2)).or (get? key table) := by
  induction entries generalizing table with
  | nil => rfl
  | cons e rest ih =>
    obtain ⟨k, a⟩ := e
    rw [List.foldl_cons, ih]
    by_cases hk : k = key
    · have hput : get? key (put k a table) = some a := by
        rw [hk, put, get?_alter_self]
      rw [hput, List.filter_cons_of_pos (by simpa using hk), List.getLast?_cons]
      cases (rest.filter (·.1 = key)).getLast? <;> rfl
    · have hput : get? key (put k a table) = get? key table := by
        rw [put, get?_alter_of_ne (Ne.symm hk)]
      rw [hput, List.filter_cons_of_neg (by simpa using hk)]

theorem get?_ofList (key : κ) (entries : List (κ × α)) :
    get? key (ofList entries) = (entries.filter (·.1 = key)).getLast?.map (·.2) := by
  rw [ofList, get?_foldl_put, get?, Option.or_none]

/-! ### Keys -/

theorem mem_keys_alter {key other : κ} {f : Option α → α} {entries : Keyed κ α} :
    other ∈ keys (alter key f entries) ↔ other ∈ keys entries ∨ other = key := by
  rw [keys_alter]
  split
  · rename_i h
    exact ⟨.inl, fun ho => ho.elim id fun e => e ▸ h⟩
  · rw [List.mem_append, List.mem_singleton]

theorem nodup_keys_alter (key : κ) (f : Option α → α) {entries : Keyed κ α}
    (h : (keys entries).Nodup) : (keys (alter key f entries)).Nodup := by
  rw [keys_alter]
  split
  · exact h
  · rename_i hkey
    refine List.nodup_append.2 ⟨h, List.pairwise_singleton _ _, fun k hk other ho e => hkey ?_⟩
    rw [← List.mem_singleton.1 ho, ← e]
    exact hk

theorem mem_keys_foldl_put {key : κ} {entries : List (κ × α)} {table : Keyed κ α} :
    key ∈ keys (entries.foldl (fun t (k, a) => put k a t) table) ↔
      key ∈ keys table ∨ key ∈ entries.map (·.1) := by
  induction entries generalizing table with
  | nil => simp
  | cons e rest ih =>
    rw [List.foldl_cons, ih, List.map_cons, List.mem_cons, ← or_assoc]
    exact or_congr_left mem_keys_alter

/-- The keys of a table are those that were put. -/
theorem mem_keys_ofList {key : κ} {entries : List (κ × α)} :
    key ∈ keys (ofList entries) ↔ key ∈ entries.map (·.1) := by
  rw [ofList, mem_keys_foldl_put]
  simp [keys]

theorem nodup_keys_foldl_put (entries : List (κ × α)) {table : Keyed κ α}
    (h : (keys table).Nodup) :
    (keys (entries.foldl (fun t (k, a) => put k a t) table)).Nodup := by
  induction entries generalizing table with
  | nil => exact h
  | cons e rest ih => exact ih (nodup_keys_alter e.1 _ h)

/-- No key comes twice. -/
theorem nodup_keys_ofList (entries : List (κ × α)) : (keys (ofList entries)).Nodup :=
  nodup_keys_foldl_put entries List.nodup_nil

/-! ### Entries of a table -/

theorem mem_of_get? {key : κ} {entries : Keyed κ α} {a : α} (h : get? key entries = some a) :
    (key, a) ∈ entries := by
  induction entries with
  | nil => exact absurd h (Option.some_ne_none a).symm
  | cons first rest ih =>
    obtain ⟨k, b⟩ := first
    rw [get?] at h
    split at h
    · rename_i hk
      rw [hk, Option.some.inj h]
      exact List.mem_cons_self
    · exact List.mem_cons_of_mem _ (ih h)

/-- In a table without repeated keys every entry is found under its key. -/
theorem get?_of_mem {entries : Keyed κ α} (hn : (keys entries).Nodup) {e : κ × α}
    (h : e ∈ entries) : get? e.1 entries = some e.2 := by
  induction entries with
  | nil => exact absurd h List.not_mem_nil
  | cons first rest ih =>
    obtain ⟨k, a⟩ := first
    have ⟨hk, hrest⟩ := List.nodup_cons.1 hn
    rcases List.mem_cons.1 h with rfl | h
    · exact if_pos rfl
    · have hne : k ≠ e.1 := fun he => hk (he ▸ List.mem_map.2 ⟨e, h, rfl⟩)
      rw [get?, if_neg hne, ih hrest h]

/-- A table has no entries but those that were put. -/
theorem mem_ofList {entries : List (κ × α)} {e : κ × α} (h : e ∈ ofList entries) : e ∈ entries :=
  (mem_foldl_put h).resolve_left List.not_mem_nil

/-- Putting an entry and keeping the entries of some keys can change places. -/
theorem filter_put (p : κ → Bool) (key : κ) (a : α) (entries : Keyed κ α) :
    (put key a entries).filter (fun e => p e.1) =
      if p key then put key a (entries.filter fun e => p e.1)
      else entries.filter fun e => p e.1 := by
  induction entries with
  | nil => cases h : p key <;> simp [put, alter, h]
  | cons e rest ih =>
    obtain ⟨k, old⟩ := e
    by_cases hk : k = key
    · subst hk
      cases h : p k <;> simp [put, alter, h]
    · rw [put] at ih
      rw [put, alter, if_neg hk]
      rw [List.filter_cons, List.filter_cons, ih]
      cases hp : p k with
      | true => cases p key <;> simp [put, alter, hk]
      | false => rfl

theorem foldl_put_filter (p : κ → Bool) (entries : List (κ × α)) (table : Keyed κ α) :
    (entries.filter fun e => p e.1).foldl (fun t (k, a) => put k a t)
        (table.filter fun e => p e.1) =
      (entries.foldl (fun t (k, a) => put k a t) table).filter fun e => p e.1 := by
  induction entries generalizing table with
  | nil => rfl
  | cons e rest ih =>
    obtain ⟨key, a⟩ := e
    simp only [List.foldl_cons, ← ih, filter_put, List.filter_cons]
    cases p key <;> rfl

/-- A table of the entries of some keys has those entries of the table of all. -/
theorem ofList_filter (p : κ → Bool) (entries : List (κ × α)) :
    ofList (entries.filter fun e => p e.1) = (ofList entries).filter fun e => p e.1 :=
  foldl_put_filter p entries []

/-- Values can be changed before or after they are put. -/
theorem map_put {β : Type w} (g : α → β) (key : κ) (a : α) (entries : Keyed κ α) :
    (put key a entries).map (fun e => (e.1, g e.2)) =
      put key (g a) (entries.map fun e => (e.1, g e.2)) := by
  induction entries with
  | nil => rfl
  | cons e rest ih =>
    obtain ⟨k, old⟩ := e
    by_cases hk : k = key
    · simp [put, alter, hk]
    · rw [put] at ih
      simp only [put, alter, hk, if_false, List.map_cons, ih]

theorem map_foldl_put {β : Type w} (g : α → β) (entries : List (κ × α)) (table : Keyed κ α) :
    (entries.foldl (fun t (k, a) => put k a t) table).map (fun e => (e.1, g e.2)) =
      (entries.map fun e => (e.1, g e.2)).foldl (fun t (k, a) => put k a t)
        (table.map fun e => (e.1, g e.2)) := by
  induction entries generalizing table with
  | nil => rfl
  | cons e rest ih => rw [List.foldl_cons, ih, map_put, List.map_cons, List.foldl_cons]

/-- A table of changed values is the table with its values changed. -/
theorem map_ofList {β : Type w} (g : α → β) (entries : List (κ × α)) :
    (ofList entries).map (fun e => (e.1, g e.2)) = ofList (entries.map fun e => (e.1, g e.2)) :=
  map_foldl_put g entries []

/-- A new key goes to the end. -/
theorem alter_of_notMem {key : κ} {entries : Keyed κ α} (h : key ∉ keys entries)
    (f : Option α → α) : alter key f entries = entries ++ [(key, f none)] := by
  induction entries with
  | nil => rfl
  | cons e rest ih =>
    obtain ⟨k, a⟩ := e
    simp only [keys, List.map_cons, List.mem_cons, not_or] at h
    rw [alter, if_neg (Ne.symm h.1), ih h.2, List.cons_append]

/-- Entries of different keys, taken over one after the other, stand as they were. -/
theorem foldl_alter_of_nodup {f : κ × α → Option α → α} (hf : ∀ e, f e none = e.2)
    {entries : List (κ × α)} {table : Keyed κ α} (h : (keys (table ++ entries)).Nodup) :
    entries.foldl (fun t e => alter e.1 (f e) t) table = table ++ entries := by
  induction entries generalizing table with
  | nil => rw [List.foldl_nil, List.append_nil]
  | cons e rest ih =>
    have hkey : e.1 ∉ keys table := by
      intro hm
      rw [keys, List.map_append, List.map_cons] at h
      exact (List.nodup_append.1 h).2.2 _ hm _ List.mem_cons_self rfl
    rw [List.foldl_cons, alter_of_notMem hkey, hf, ih, List.append_assoc, List.singleton_append]
    rwa [List.append_assoc, List.singleton_append]

/-- A table of entries with different keys has just these. -/
theorem ofList_of_nodup {entries : List (κ × α)} (h : (keys entries).Nodup) :
    ofList entries = entries :=
  foldl_alter_of_nodup (f := fun e _ => e.2) (fun _ => rfl) h

end Keyed

end PatchReview
