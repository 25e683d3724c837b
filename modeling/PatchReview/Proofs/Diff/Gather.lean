import Mathlib.Data.List.Induction
import Mathlib.Data.List.Nodup
import PatchReview.Diff.AddedLines

/-! Notes about files, put together by file.

A note names a file and some of its added lines, perhaps none. Notes put together make added lines
by file, in the order in which the files come first (`gather`). Notes of which some were put
together before make the same (`gather_flatMap_gather`), so that parts can be gathered on their
own. -/
namespace PatchReview.AddedLines

/-- Lines of one file. -/
abbrev Note := String × List AddedLine

/-- Adds lines to a file, which is named by that if it was not before. -/
def extend (files : AddedLines) (note : Note) : AddedLines :=
  files.alter note.1 (·.getD [] ++ note.2)

/-- Notes put together by file, in the order in which the files come first. -/
def gather (notes : List Note) : AddedLines := notes.foldl extend []

theorem gather_append (a b : List Note) : gather (a ++ b) = b.foldl extend (gather a) :=
  List.foldl_append

theorem gather_concat (a : List Note) (note : Note) :
    gather (a ++ [note]) = extend (gather a) note := gather_append a [note]

/-! ### Notes of one file -/

theorem mem_keys_extend {files : AddedLines} {note : Note} {path : String} :
    path ∈ Keyed.keys (extend files note) ↔ path ∈ Keyed.keys files ∨ path = note.1 :=
  Keyed.mem_keys_alter

theorem mem_keys_extend_of_mem {files : AddedLines} {path : String} (h : path ∈ Keyed.keys files)
    (note : Note) : path ∈ Keyed.keys (extend files note) :=
  mem_keys_extend.2 (.inl h)

theorem mem_keys_extend_self (files : AddedLines) (note : Note) :
    note.1 ∈ Keyed.keys (extend files note) :=
  mem_keys_extend.2 (.inr rfl)

/-- Every file with a note is named. -/
theorem mem_keys_gather {notes : List Note} {note : Note} (h : note ∈ notes) :
    note.1 ∈ Keyed.keys (gather notes) := by
  induction notes using List.reverseRecOn with
  | nil => exact absurd h List.not_mem_nil
  | append_singleton notes last ih =>
    rw [gather_concat]
    rcases List.mem_append.1 h with h | h
    · exact mem_keys_extend_of_mem (ih h) last
    · rw [List.mem_singleton.1 h]
      exact mem_keys_extend_self _ last

theorem extend_extend_self (files : AddedLines) (path : String) (a b : List AddedLine) :
    extend (extend files (path, a)) (path, b) = extend files (path, a ++ b) := by
  induction files with
  | nil => simp [extend, Keyed.alter]
  | cons e rest ih =>
    obtain ⟨k, old⟩ := e
    by_cases hk : k = path
    · simp [extend, Keyed.alter, hk]
    · simp only [extend, Keyed.alter, hk, if_false] at ih ⊢
      rw [ih]

/-- Two files take their lines in either order, once one of them is named. -/
theorem extend_comm {files : AddedLines} {path other : String} (hne : other ≠ path)
    (h : path ∈ Keyed.keys files) (a b : List AddedLine) :
    extend (extend files (path, a)) (other, b) = extend (extend files (other, b)) (path, a) := by
  induction files with
  | nil => exact absurd h List.not_mem_nil
  | cons e rest ih =>
    obtain ⟨k, old⟩ := e
    by_cases hp : k = path
    · simp [extend, Keyed.alter, hp, Ne.symm hne]
    · have hrest : path ∈ Keyed.keys rest := by
        simpa [Keyed.keys, Ne.symm hp] using h
      by_cases ho : k = other
      · simp [extend, Keyed.alter, ho, hne]
      · simp only [extend, Keyed.alter, hp, ho, if_false] at ih ⊢
        rw [ih hrest]

/-! ### Putting together what is put together -/

theorem nodup_keys_gather (notes : List Note) : (Keyed.keys (gather notes)).Nodup := by
  induction notes using List.reverseRecOn with
  | nil => exact List.nodup_nil
  | append_singleton notes note ih =>
    rw [gather_concat]
    exact Keyed.nodup_keys_alter note.1 _ ih

/-- A file that is named already takes its lines before or after those of other files. -/
theorem foldl_extend_comm {files : AddedLines} {path : String} (h : path ∈ Keyed.keys files)
    (lines : List AddedLine) {entries : AddedLines} (hn : path ∉ Keyed.keys entries) :
    entries.foldl extend (extend files (path, lines)) =
      extend (entries.foldl extend files) (path, lines) := by
  induction entries generalizing files with
  | nil => rfl
  | cons e rest ih =>
    obtain ⟨k, more⟩ := e
    simp only [Keyed.keys, List.map_cons, List.mem_cons, not_or] at hn
    rw [List.foldl_cons, List.foldl_cons, extend_comm (Ne.symm hn.1) h,
      ih (mem_keys_extend_of_mem h _) hn.2]

/-- Adding a file's lines to a table before its files are put together, or after. -/
theorem foldl_extend_extend (files : AddedLines) {entries : AddedLines}
    (h : (Keyed.keys entries).Nodup) (note : Note) :
    (extend entries note).foldl extend files = extend (entries.foldl extend files) note := by
  obtain ⟨path, lines⟩ := note
  induction entries generalizing files with
  | nil => rfl
  | cons e rest ih =>
    obtain ⟨k, old⟩ := e
    have ⟨hk, hrest⟩ := List.nodup_cons.1 h
    by_cases hp : k = path
    · subst hp
      have hcons : extend ((k, old) :: rest) (k, lines) = (k, old ++ lines) :: rest := by
        simp [extend, Keyed.alter]
      rw [hcons, List.foldl_cons, List.foldl_cons, ← extend_extend_self,
        foldl_extend_comm (mem_keys_extend_self files (k, old)) lines hk]
    · have hcons : extend ((k, old) :: rest) (path, lines) =
          (k, old) :: extend rest (path, lines) := by
        simp [extend, Keyed.alter, hp]
      rw [hcons, List.foldl_cons, List.foldl_cons, ih _ hrest]

theorem foldl_extend_gather (files : AddedLines) (notes : List Note) :
    (gather notes).foldl extend files = notes.foldl extend files := by
  induction notes using List.reverseRecOn with
  | nil => rfl
  | append_singleton notes note ih =>
    rw [gather_concat, foldl_extend_extend files (nodup_keys_gather notes), ih, List.foldl_append]
    rfl

/-- Gathering parts first makes no difference. -/
theorem gather_flatMap_gather (parts : List (List Note)) :
    gather (parts.flatMap gather) = gather parts.flatten := by
  induction parts using List.reverseRecOn with
  | nil => rfl
  | append_singleton parts notes ih =>
    rw [List.flatMap_append, List.flatten_append, gather_append, gather_append, ih,
      List.flatMap_singleton, List.flatten_singleton, foldl_extend_gather]

/-- Files that are all different stay as they are. -/
theorem gather_of_nodup {files : AddedLines} (h : (Keyed.keys files).Nodup) :
    gather files = files :=
  Keyed.foldl_alter_of_nodup (f := fun note old => old.getD [] ++ note.2) (fun _ => rfl)
    (by rwa [List.nil_append])

end PatchReview.AddedLines
