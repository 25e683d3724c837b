import PatchReview.Command.Source
import PatchReview.Proofs.Files
import PatchReview.Proofs.Scope

/-! Where a command finds its diff.

A diff on standard input goes through a temporary file, and comes out of it as it would come out of
a file that holds its bytes (`spool_inputText_eq_readDiff`). -/
namespace PatchReview.Command

open Text (IsWhole StandIns)

/-- There is no source because the options do not go together, or because git does not make it. -/
theorem sourceOf_eq_error {s : Surroundings} {repository : Path} {o : SourceOptions} {stop : Stop}
    (h : sourceOf s repository o = .error stop) :
    (∃ e, stop = .usage e) ∨
      ∃ e, stop = .failure e ∧ o.diffFile = none ∧ o.fromInput = false ∧
        s.git.diff repository o.base o.head = .error e := by
  unfold sourceOf at h
  split at h
  · exact .inl ⟨_, (Except.error.inj h).symm⟩
  split at h
  · exact .inl ⟨_, (Except.error.inj h).symm⟩
  split at h
  · exact absurd h (by simp)
  · exact absurd h (by simp)
  · next hfile hinput =>
    split at h
    · exact absurd h (by simp)
    · exact .inl ⟨_, (Except.error.inj h).symm⟩
    · next e hgit => exact .inr ⟨e, (Except.error.inj h).symm, hfile, hinput, hgit⟩

variable [StandIns]

theorem pathFault?_temporaryName :
    Files.pathFault?
      (Naming.numberedName 0 Scope.defaultBeginning Scope.defaultEnding) = none :=
  Files.pathFault?_of_isAssigned (by decide) (by decide)

/-- What is written into the temporary file is read out of it, as text files are. -/
theorem spool_of_isWhole {content : String} (h : IsWhole content.toList) :
    spool content = .ok (String.ofList (Text.universalNewlines content.toList)) := by
  have hname : Naming.numbered.name 0 Scope.defaultBeginning Scope.defaultEnding =
      .ok (Naming.numberedName 0 Scope.defaultBeginning Scope.defaultEnding) := by
    simp only [Naming.numbered, pathFault?_temporaryName]
  have hcontent := (Text.encodeError?_eq_none_iff _).2 h
  have hwrite := Scope.write_of_encodeError? (s := .opened Scope.defaultBeginning) hname hcontent
  simp only [spool, hwrite, bind, Except.bind, Scope.read?_withFile_opened]
  rw [Files.lenientText_encode]
  rfl

theorem readDiff_of_bytes {files : Files} {path : Path} {bytes : List UInt8}
    (h : files.bytes path = .ok bytes) :
    Review.readDiff files path = .ok (Files.lenientText bytes) := by
  rw [Review.readDiff, Files.isFile_of_bytes h, Files.readLeniently_of_bytes h]
  rfl

/-- A text is read alike from standard input and from a file. -/
theorem spool_inputText_eq_readDiff {s : Surroundings} {files : Files} {path : Path}
    (hinput : IsWhole s.input.toList)
    (hfile : files.bytes path = .ok (Text.Utf8.encode s.input.toList)) :
    spool (inputText s) = Review.readDiff files path := by
  have hwhole : IsWhole (inputText s).toList := by
    rw [inputText, String.toList_ofList]
    refine hinput.of_mem fun c hc => (Text.mem_of_mem_universalNewlines hc).imp_right ?_
    rintro rfl
    decide
  rw [spool_of_isWhole hwhole, readDiff_of_bytes hfile, Files.lenientText_encode, inputText,
    String.toList_ofList, Text.universalNewlines_universalNewlines]

end PatchReview.Command
