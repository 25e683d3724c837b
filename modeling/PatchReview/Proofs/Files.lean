import PatchReview.Files.Expansion
import PatchReview.Proofs.Outcome
import PatchReview.Proofs.Text.Decoding
import PatchReview.Proofs.Text.Encoding
import PatchReview.Proofs.Text.Lines

/-! Files that are there.

A path can be asked for if UTF-8 can hold its characters, or the bytes that they stand for, and none
is a NUL (`pathFault?_eq_none_iff`). Dropping parts that lead nowhere drops only slashes and points,
so where a file stands at a path, the path can be asked for as it was written
(`pathFault?_of_bytes`). What is written to a file is read back with newlines for all ends of lines
(`lenientText_encode`). Only a file's fault keeps the files that a pattern names from being found
(`expand_eq_error`). -/
namespace PatchReview

open Outcome
open Text (IsWhole)

namespace Path

theorem mem_of_mem_cutAtSlashes {s : List Char} {c : Char} (hc : c ∈ s) (hslash : c ≠ '/') :
    ∃ part ∈ cutAtSlashes s, c ∈ part := by
  fun_induction cutAtSlashes s with
  | case1 => exact absurd hc List.not_mem_nil
  | case2 s ih =>
    obtain ⟨part, hpart, hmem⟩ := ih ((List.mem_cons.1 hc).resolve_left hslash)
    exact ⟨part, List.mem_cons_of_mem _ hpart, hmem⟩
  | case3 d s _ hnil ih =>
    rcases List.mem_cons.1 hc with rfl | hc
    · exact ⟨[c], List.mem_singleton_self _, List.mem_singleton_self _⟩
    · obtain ⟨part, hpart, -⟩ := ih hc
      rw [hnil] at hpart
      exact absurd hpart List.not_mem_nil
  | case4 d s _ first rest hcut ih =>
    rcases List.mem_cons.1 hc with rfl | hc
    · exact ⟨c :: first, List.mem_cons_self, List.mem_cons_self⟩
    · obtain ⟨part, hpart, hmem⟩ := ih hc
      rw [hcut] at hpart
      rcases List.mem_cons.1 hpart with rfl | hpart
      · exact ⟨d :: part, List.mem_cons_self, List.mem_cons_of_mem _ hmem⟩
      · exact ⟨part, List.mem_cons_of_mem _ hpart, hmem⟩

theorem mem_intercalate {between : String} {parts : List String} {part : String}
    (h : part ∈ parts) {c : Char} (hc : c ∈ part.toList) :
    c ∈ (between.intercalate parts).toList := by
  induction parts with
  | nil => exact absurd h List.not_mem_nil
  | cons first rest ih =>
    cases rest with
    | nil =>
      obtain rfl := List.mem_singleton.1 h
      rwa [String.intercalate_singleton]
    | cons next rest =>
      rw [String.intercalate_cons_cons, String.toList_append, String.toList_append]
      rcases List.mem_cons.1 h with rfl | h
      · exact List.mem_append_left _ (List.mem_append_left _ hc)
      · exact List.mem_append_right _ (ih h)

/-- All characters of a path as it was written are in its text, but for slashes and points. -/
theorem mem_text_ofText {text : String} {c : Char} (hc : c ∈ text.toList) (hslash : c ≠ '/')
    (hpoint : c ≠ '.') : c ∈ (ofText text).text.toList := by
  obtain ⟨part, hpart, hmem⟩ := mem_of_mem_cutAtSlashes hc hslash
  have hleads : leads (String.ofList part) = true := by
    rw [leads, Bool.and_eq_true, bne_iff_ne, bne_iff_ne]
    constructor
    · intro he
      rw [← String.toList_inj, String.toList_ofList] at he
      rw [he] at hmem
      exact absurd hmem List.not_mem_nil
    · intro he
      rw [← String.toList_inj, String.toList_ofList] at he
      rw [he] at hmem
      exact hpoint (List.mem_singleton.1 hmem)
  have hin : String.ofList part ∈ (ofText text).parts :=
    List.mem_filter.2 ⟨List.mem_map_of_mem hpart, hleads⟩
  rw [Path.text, if_neg]
  · rw [String.toList_append]
    exact List.mem_append_right _ (mem_intercalate hin (by rwa [String.toList_ofList]))
  · rw [Bool.and_eq_true, List.isEmpty_iff]
    exact fun he => absurd (he.2 ▸ hin) List.not_mem_nil

end Path

namespace Files

variable [Text.StandIns]

theorem pathFault?_eq_none_iff {path : String} :
    pathFault? path = none ↔
      (∀ c ∈ path.toList, ∀ half, Text.Surrogate.half? c = some half →
        Text.Utf8.isByteHalf half = true) ∧ Char.ofNat 0 ∉ path.toList := by
  have hpath : Text.Utf8.pathError? path.toList =
      Text.Utf8.encodeErrorFrom Text.Utf8.isByteHalf 0 path.toList := rfl
  rw [pathFault?, hpath, ← Text.encodeErrorFrom_eq_none_iff, ← List.contains_iff_mem]
  cases Text.Utf8.encodeErrorFrom Text.Utf8.isByteHalf 0 path.toList with
  | some e => exact iff_of_false (Option.some_ne_none _) fun h => Option.some_ne_none e h.1
  | none => cases path.toList.contains (Char.ofNat 0) <;> simp

/-- A path of characters of the assigned planes without NUL can be asked for. -/
theorem pathFault?_of_isAssigned {path : String} (h : Text.isAssigned path.toList = true)
    (hnull : Char.ofNat 0 ∉ path.toList) : pathFault? path = none := by
  refine pathFault?_eq_none_iff.2 ⟨fun c hc half hhalf => ?_, hnull⟩
  rw [Text.isWhole_of_isAssigned h c hc] at hhalf
  exact absurd hhalf (Option.some_ne_none half).symm

/-! ### Files at paths -/

section
variable {f : Files} {p : Path} {bytes : List UInt8}

theorem find_of_bytes (h : f.bytes p = .ok bytes) : f.find p = .ok (.file bytes) := by
  rw [Files.bytes] at h
  cases hfind : f.find p with
  | error e =>
    rw [hfind] at h
    exact absurd h (by simp [bind, Except.bind])
  | ok node =>
    rw [hfind] at h
    cases node with
    | directory => exact absurd h (by simp [bind, Except.bind, throw, throwThe, MonadExceptOf.throw])
    | file found => exact congrArg (fun b => Except.ok (Node.file b)) (Except.ok.inj h)

theorem isFile_of_bytes (h : f.bytes p = .ok bytes) : f.isFile p = .ok true := by
  rw [isFile, find?, find_of_bytes h]
  rfl

theorem readLeniently_of_bytes (h : f.bytes p = .ok bytes) :
    f.readLeniently p = .ok (lenientText bytes) := by
  rw [readLeniently, h]
  rfl

theorem pathFault?_of_find {node : Node} (h : f.find p = .ok node) :
    pathFault? p.text = none := by
  cases hfault : pathFault? p.text with
  | none => rfl
  | some e =>
    rw [find, hfault] at h
    exact absurd h (by simp [bind, Except.bind, throw, throwThe, MonadExceptOf.throw])

/-- Where a file stands at a path, the path can be asked for as it was written. -/
theorem pathFault?_of_bytes {path : String} (h : f.bytes (.ofText path) = .ok bytes) :
    pathFault? path = none := by
  obtain ⟨hhalves, hnull⟩ := pathFault?_eq_none_iff.1 (pathFault?_of_find (find_of_bytes h))
  refine pathFault?_eq_none_iff.2 ⟨fun c hc half hhalf => ?_, fun hm => hnull ?_⟩
  · refine hhalves c (Path.mem_text_ofText hc ?_ ?_) half hhalf
    · rintro rfl
      rw [Text.half?_of_lt (by decide)] at hhalf
      exact absurd hhalf (Option.some_ne_none half).symm
    · rintro rfl
      rw [Text.half?_of_lt (by decide)] at hhalf
      exact absurd hhalf (Option.some_ne_none half).symm
  · exact Path.mem_text_ofText hm (by decide) (by decide)

end

/-! ### Files that a pattern names -/

theorem find?_eq_error {f : Files} {p : Path} (e : Failure) (h : f.find? p = .error e) :
    ∃ fault, e = .file fault := by
  unfold find? at h
  split at h
  · exact absurd h (by simp)
  · exact ⟨_, (Except.error.inj h).symm⟩
  · exact absurd h (by simp)

theorem namesTaken_eq_error {f : Files} {onlyDirectories : Bool} {directory part : String}
    (e : Failure) (h : f.namesTaken onlyDirectories directory part = .error e) :
    ∃ fault, e = .file fault := by
  unfold namesTaken at h
  split at h
  · exact absurd h (by simp)
  · split at h
    · exact ⟨_, (Except.error.inj h).symm⟩
    · split at h <;> exact absurd h (by simp)

theorem placesOf_eq_error {f : Files} {slashes : Nat} {onlyDirectories : Bool}
    {parts : List String} :
    ∀ e, f.placesOf slashes onlyDirectories parts = .error e → ∃ fault, e = .file fault := by
  induction parts generalizing onlyDirectories with
  | nil => exact fun e h => absurd h (by simp [placesOf])
  | cons part before ih =>
    have hplaces (directories : List String) : ∀ e, (do
        let places ← directories.mapM fun d =>
          return (← f.namesTaken onlyDirectories d part).map (behind d)
        return places.flatten : Outcome (List String)) = .error e → ∃ fault, e = .file fault := by
      refine error_bind (fun e h => ?_) fun places e h => absurd h (by simp [pure, Except.pure])
      obtain ⟨d, -, hd⟩ := exists_of_mapM_eq_error h
      exact error_bind namesTaken_eq_error
        (fun names e h => absurd h (by simp [pure, Except.pure])) e hd
    rw [placesOf]
    split
    · exact error_bind ih hplaces
    · split
      · exact hplaces _
      · exact hplaces _

/-- Where the files that a pattern names cannot be found, it is a file's fault. -/
theorem expand_eq_error {f : Files} {pattern : Path} :
    ∀ e, f.expand pattern = .error e → ∃ fault, e = .file fault := by
  rw [expand]
  refine error_bind placesOf_eq_error fun places => ?_
  refine error_bind (fun e h => ?_) fun found e h => absurd h (by simp [pure, Except.pure])
  obtain ⟨p, -, hp⟩ := exists_of_filterM_eq_error h
  rw [isFile, map_eq_error_iff] at hp
  exact find?_eq_error e hp

omit [Text.StandIns] in
/-- What was written is read with newlines for all ends of lines. -/
theorem lenientText_encode (s : List Char) :
    lenientText (Text.Utf8.encode s) = String.ofList (Text.universalNewlines s) := by
  rw [lenientText, Text.Utf8.decodeLenient_encode]

end Files

end PatchReview
