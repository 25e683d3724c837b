import Mathlib.Data.List.Basic
import PatchReview.Scope

/-! No temporary file outlives its scope.

A file that is there is tracked, and nothing is tracked twice (`IsTidy`). Each step keeps this,
because a file is tracked as soon as it is made and gets a name that the scope was not given before
(`IsSound.step`), and so does any work (`IsSound.after`). Closing removes just what is tracked
(`close_eq`), hence all that is there. -/
namespace PatchReview.Scope

/-- Every file that is there is tracked, and nothing is tracked twice. -/
structure IsTidy (s : Scope) : Prop where
  nodup : s.tracked.Nodup
  tracked {f : TemporaryFile} (hf : f ∈ s.files) (hthere : f.isThere = true) : f.name ∈ s.tracked

/-- Nothing is tracked and no file is there. -/
structure IsCleared (s : Scope) : Prop where
  tracked : s.tracked = []
  isThere {f : TemporaryFile} (hf : f ∈ s.files) : f.isThere = false

/-- A tidy scope that tracks only names it was given. -/
structure IsSound (naming : Naming) (s : Scope) : Prop extends IsTidy s where
  given {name : String} (h : name ∈ s.tracked) :
    ∃ number < s.asked, ∃ ending, naming.name number s.beginning ending = .ok name

/-- All files of one scope are files of another, be they there or not. -/
def Keeps (s t : Scope) : Prop := ∀ f ∈ s.files, ∃ g ∈ t.files, g.name = f.name ∧ g.bytes = f.bytes

theorem Keeps.refl (s : Scope) : Keeps s s := fun f hf => ⟨f, hf, rfl, rfl⟩

theorem Keeps.trans {s t u : Scope} (h : Keeps s t) (h' : Keeps t u) : Keeps s u := by
  intro f hf
  obtain ⟨g, hg, hname, hbytes⟩ := h f hf
  obtain ⟨k, hk, hname', hbytes'⟩ := h' g hg
  exact ⟨k, hk, hname'.trans hname, hbytes'.trans hbytes⟩

/-! ### Deleting and closing -/

/-- A file as it is when all files of some names have been deleted. -/
def without (names : List String) (f : TemporaryFile) : TemporaryFile :=
  if f.name ∈ names then { f with isThere := false } else f

theorem without_name (names : List String) (f : TemporaryFile) :
    (without names f).name = f.name := by
  unfold without
  split <;> rfl

theorem without_bytes (names : List String) (f : TemporaryFile) :
    (without names f).bytes = f.bytes := by
  unfold without
  split <;> rfl

theorem isThere_without {names : List String} {f : TemporaryFile} :
    (without names f).isThere = true ↔ f.name ∉ names ∧ f.isThere = true := by
  unfold without
  split
  · rename_i h
    exact iff_of_false Bool.false_ne_true fun hn => hn.1 h
  · rename_i h
    exact (and_iff_right h).symm

theorem without_without (names : List String) (name : String) (f : TemporaryFile) :
    without names (without [name] f) = without (names ++ [name]) f := by
  by_cases h : f.name = name <;> by_cases h' : f.name ∈ names <;> simp [without, h, h']

theorem delete_eq (s : Scope) (name : String) :
    s.delete name = { s with files := s.files.map (without [name]) } := by
  unfold delete without
  simp only [List.mem_singleton]

/-- Closing deletes what is tracked and nothing else. -/
theorem close_eq (s : Scope) :
    s.close = { s with files := s.files.map (without s.tracked), tracked := [] } := by
  fun_induction close s with
  | case1 s h =>
    have htracked : s.tracked = [] := List.getLast?_eq_none_iff.1 h
    have hfiles : s.files.map (without []) = s.files := List.map_id _
    rw [htracked, hfiles, ← htracked]
  | case2 s name h ih =>
    have htracked : s.tracked.dropLast ++ [name] = s.tracked := List.dropLast_append_getLast? name h
    rw [ih, delete_eq]
    simp only [List.map_map, Function.comp_def, without_without, htracked]

theorem keeps_map_without (s : Scope) (names tracked : List String) :
    Keeps s { s with files := s.files.map (without names), tracked := tracked } := fun f hf =>
  ⟨without names f, List.mem_map_of_mem hf, without_name names f, without_bytes names f⟩

theorem keeps_close (s : Scope) : Keeps s s.close := by
  rw [close_eq]
  exact keeps_map_without s s.tracked []

theorem IsTidy.isCleared_close {s : Scope} (h : s.IsTidy) : s.close.IsCleared := by
  rw [close_eq]
  refine ⟨rfl, fun hf => Bool.eq_false_iff.2 fun hthere => ?_⟩
  obtain ⟨f, hmem, rfl⟩ := List.mem_map.1 hf
  obtain ⟨hnone, hthere⟩ := isThere_without.1 hthere
  exact hnone (h.tracked hmem hthere)

/-! ### Making files -/

theorem isSound_opened (naming : Naming) (beginning : String) : IsSound naming (opened beginning) :=
  ⟨⟨List.nodup_nil, fun hf _ => absurd hf List.not_mem_nil⟩, fun h => absurd h List.not_mem_nil⟩

/-- A name that is not given yet is tracked from now on. -/
theorem IsSound.withFile {naming : Naming} {s : Scope} (h : IsSound naming s) {ending name : String}
    (hname : naming.name s.asked s.beginning ending = .ok name) (bytes : List UInt8) :
    IsSound naming (s.withFile name bytes) := by
  have hnew : name ∉ s.tracked := by
    intro hm
    obtain ⟨number, hlt, ending', hgiven⟩ := h.given hm
    exact absurd (naming.fresh hgiven hname) (Nat.ne_of_lt hlt)
  refine ⟨⟨?_, fun hf hthere => ?_⟩, fun hm => ?_⟩
  · refine List.nodup_append.2 ⟨h.nodup, List.pairwise_singleton _ name, fun a ha b hb => ?_⟩
    rw [List.mem_singleton.1 hb]
    exact fun e => hnew (e ▸ ha)
  · rcases List.mem_append.1 hf with hf | hf
    · exact List.mem_append_left _ (h.tracked hf hthere)
    · rw [List.mem_singleton.1 hf]
      exact List.mem_append_right _ (List.mem_singleton_self name)
  · rcases List.mem_append.1 hm with hm | hm
    · obtain ⟨number, hlt, ending', hgiven⟩ := h.given hm
      exact ⟨number, Nat.lt_succ_of_lt hlt, ending', hgiven⟩
    · rw [List.mem_singleton.1 hm]
      exact ⟨s.asked, Nat.lt_succ_self _, ending, hname⟩

theorem keeps_withFile (s : Scope) (name : String) (bytes : List UInt8) :
    Keeps s (s.withFile name bytes) :=
  fun f hf => ⟨f, List.mem_append_left _ hf, rfl, rfl⟩

/-- The first file of a scope is read as it was written. -/
theorem read?_withFile_opened (beginning name : String) (bytes : List UInt8) :
    ((opened beginning).withFile name bytes).read? name = some (Files.lenientText bytes) := by
  simp [read?, withFile, opened]

/-! ### One step -/

section
variable [Text.StandIns]

/-- Whether a step raises a failure. -/
inductive Raises (naming : Naming) (s : Scope) : ScopeStep → Failure → Prop where
  | write {content ending : String} {e : Failure}
      (h : (s.write naming content ending).2 = .error e) :
      Raises naming s (.write content ending false) e
  | breakOff (e : Failure) : Raises naming s (.breakOff e) e

variable {naming : Naming} {s : Scope}

/-- What asking for a file can lead to. -/
theorem write_cases (naming : Naming) (s : Scope) (content ending : String) :
    (∃ e, s.write naming content ending = ({ s with asked := s.asked + 1 }, .error e)) ∨
      ∃ name, naming.name s.asked s.beginning ending = .ok name ∧
        ((∃ e, s.write naming content ending = (s.withFile name [], .error e)) ∨
          s.write naming content ending =
            (s.withFile name (Text.Utf8.encode content.toList), .ok name)) := by
  unfold write
  cases hname : naming.name s.asked s.beginning ending with
  | error e => exact .inl ⟨e, rfl⟩
  | ok name =>
    refine .inr ⟨name, rfl, ?_⟩
    cases Text.Utf8.encodeError? content.toList with
    | some e => exact .inl ⟨_, rfl⟩
    | none => exact .inr rfl

/-- What UTF-8 can hold is written into a file, if there is one. -/
theorem write_of_encodeError? {content ending name : String}
    (hname : naming.name s.asked s.beginning ending = .ok name)
    (hcontent : Text.Utf8.encodeError? content.toList = none) :
    s.write naming content ending =
      (s.withFile name (Text.Utf8.encode content.toList), .ok name) := by
  simp only [write, hname, hcontent]

theorem IsSound.write (h : IsSound naming s) (content ending : String) :
    IsSound naming (s.write naming content ending).1 := by
  rcases write_cases naming s content ending with
    ⟨e, heq⟩ | ⟨name, hname, ⟨e, heq⟩ | heq⟩ <;> rw [heq]
  · refine ⟨⟨h.nodup, h.tracked⟩, fun hm => ?_⟩
    obtain ⟨number, hlt, hgiven⟩ := h.given hm
    exact ⟨number, Nat.lt_succ_of_lt hlt, hgiven⟩
  · exact h.withFile hname _
  · exact h.withFile hname _

theorem keeps_write (naming : Naming) (s : Scope) (content ending : String) :
    Keeps s (s.write naming content ending).1 := by
  rcases write_cases naming s content ending with
    ⟨e, heq⟩ | ⟨name, -, ⟨e, heq⟩ | heq⟩ <;> rw [heq]
  · exact Keeps.refl s
  · exact keeps_withFile s name _
  · exact keeps_withFile s name _

theorem step_write (naming : Naming) (s : Scope) (content ending : String) (copes : Bool) :
    (s.step naming (.write content ending copes)).1 = (s.write naming content ending).1 := by
  rw [step]
  split <;> rename_i heq <;> rw [heq]

/-- Every step leaves a sound scope sound. -/
theorem IsSound.step (h : IsSound naming s) (a : ScopeStep) :
    IsSound naming (s.step naming a).1 := by
  cases a with
  | write content ending copes =>
    rw [step_write]
    exact h.write content ending
  | delete name =>
    show IsSound naming (s.delete name)
    rw [delete_eq]
    refine ⟨⟨h.nodup, fun hf hthere => ?_⟩, h.given⟩
    obtain ⟨f, hmem, rfl⟩ := List.mem_map.1 hf
    rw [without_name]
    exact h.tracked hmem (isThere_without.1 hthere).2
  | close =>
    show IsSound naming s.close
    have hcleared := h.toIsTidy.isCleared_close
    refine ⟨⟨?_, fun hf hthere => ?_⟩, fun hm => ?_⟩
    · rw [hcleared.tracked]
      exact List.nodup_nil
    · exact absurd ((hcleared.isThere hf).symm.trans hthere) Bool.false_ne_true
    · rw [hcleared.tracked] at hm
      exact absurd hm List.not_mem_nil
  | breakOff e => exact h

/-- No step forgets a file. -/
theorem keeps_step (naming : Naming) (s : Scope) (a : ScopeStep) :
    Keeps s (s.step naming a).1 := by
  cases a with
  | write content ending copes =>
    rw [step_write]
    exact keeps_write naming s content ending
  | delete name =>
    show Keeps s (s.delete name)
    rw [delete_eq]
    exact keeps_map_without s [name] s.tracked
  | close => exact keeps_close s
  | breakOff e => exact Keeps.refl s

theorem raises_iff {a : ScopeStep} {e : Failure} :
    Raises naming s a e ↔ (s.step naming a).2 = some e := by
  constructor
  · intro h
    cases h with
    | write h =>
      rw [step]
      split <;> rename_i heq <;> rw [heq] at h
      · exact congrArg some (Except.error.inj h)
      · exact absurd h (by simp)
    | breakOff e => rfl
  · intro h
    cases a with
    | write content ending copes =>
      rw [step] at h
      split at h <;> rename_i heq
      · cases copes with
        | true => exact absurd h (Option.some_ne_none e).symm
        | false =>
          obtain rfl := Option.some.inj h
          exact .write (by rw [heq])
      · exact absurd h (Option.some_ne_none e).symm
    | delete name | close => exact absurd h (Option.some_ne_none e).symm
    | breakOff e' =>
      obtain rfl := Option.some.inj h
      exact .breakOff e'

/-! ### All steps -/

theorem after_cons (naming : Naming) (s : Scope) (a : ScopeStep) (rest : List ScopeStep) :
    s.after naming (a :: rest) =
      if (s.step naming a).2 = none then (s.step naming a).1.after naming rest
      else s.step naming a := by
  rw [after]
  rcases s.step naming a with ⟨t, _ | e⟩ <;> rfl

/-- Behind work that was not broken off the rest is done. -/
theorem after_append {done : List ScopeStep} (h : (s.after naming done).2 = none)
    (rest : List ScopeStep) :
    s.after naming (done ++ rest) = (s.after naming done).1.after naming rest := by
  induction done generalizing s with
  | nil => rfl
  | cons a done ih =>
    rw [List.cons_append, after_cons, after_cons] at *
    split <;> rename_i hstep
    · rw [if_pos hstep] at h
      exact ih h
    · rw [if_neg hstep] at h
      exact absurd h hstep

theorem after_append_cons {done : List ScopeStep} (h : (s.after naming done).2 = none)
    {a : ScopeStep} (ha : ((s.after naming done).1.step naming a).2 = none)
    (rest : List ScopeStep) :
    s.after naming (done ++ a :: rest) =
      ((s.after naming done).1.step naming a).1.after naming rest := by
  rw [after_append h, after_cons, if_pos ha]

/-- A scope stays sound whatever is done in it. -/
theorem IsSound.after (h : IsSound naming s) (work : List ScopeStep) :
    IsSound naming (s.after naming work).1 := by
  induction work generalizing s with
  | nil => exact h
  | cons a rest ih =>
    rw [after_cons]
    split
    · exact ih (h.step a)
    · exact h.step a

theorem keeps_after (naming : Naming) (s : Scope) (work : List ScopeStep) :
    Keeps s (s.after naming work).1 := by
  induction work generalizing s with
  | nil => exact Keeps.refl s
  | cons a rest ih =>
    rw [after_cons]
    split
    · exact (keeps_step naming s a).trans (ih _)
    · exact keeps_step naming s a

omit [Text.StandIns] in
/-- A place in some work is at its front or behind its first step. -/
theorem exists_split_cons {P : List ScopeStep → ScopeStep → Prop} {a : ScopeStep}
    {work : List ScopeStep} :
    (∃ done b rest, a :: work = done ++ b :: rest ∧ P done b) ↔
      P [] a ∨ ∃ done b rest, work = done ++ b :: rest ∧ P (a :: done) b := by
  constructor
  · rintro ⟨_ | ⟨c, done⟩, b, rest, hwork, h⟩
    · obtain ⟨rfl, rfl⟩ := List.cons.inj hwork
      exact .inl h
    · obtain ⟨rfl, rfl⟩ := List.cons.inj hwork
      exact .inr ⟨done, b, rest, rfl, h⟩
  · rintro (h | ⟨done, b, rest, rfl, h⟩)
    · exact ⟨[], a, work, rfl, h⟩
    · exact ⟨a :: done, b, rest, rfl, h⟩

/-- Work is broken off by the first step that raises a failure, with this failure. -/
theorem after_eq_some_iff {work : List ScopeStep} {e : Failure} :
    (s.after naming work).2 = some e ↔
      ∃ done a rest, work = done ++ a :: rest ∧ (s.after naming done).2 = none ∧
        Raises naming (s.after naming done).1 a e := by
  induction work generalizing s with
  | nil => simp [after]
  | cons a work ih =>
    have hfront : (s.after naming []).2 = none ∧ Raises naming (s.after naming []).1 a e ↔
        (s.step naming a).2 = some e := (and_iff_right rfl).trans raises_iff
    rw [exists_split_cons, hfront, after_cons]
    by_cases hstep : (s.step naming a).2 = none
    · -- The first step breaks nothing off, so a later one has to.
      simp only [after_cons, if_pos hstep]
      rw [hstep, ih, or_iff_right (Option.some_ne_none e).symm]
    · simp only [after_cons, if_neg hstep]
      refine (or_iff_left ?_).symm
      rintro ⟨done, b, rest, -, hdone, -⟩
      exact hstep hdone

/-- Whatever is done in a scope, at every point each file that is there is tracked, and none twice;
each time the scope has been closed, and when it has been left, nothing is tracked and no file is
there, also none of those whose names were handed out; and the scope is left with a failure exactly
if one was raised, which is the one that it is left with. -/
theorem leaves_nothing (naming : Naming) (beginning : String) (work : List ScopeStep) :
    let s := opened beginning
    (∀ done rest, work = done ++ rest → (s.after naming done).1.IsTidy) ∧
    (∀ done rest, work = done ++ .close :: rest → (s.after naming done).2 = none →
      (s.after naming (done ++ [.close])).1.IsCleared) ∧
    (s.run naming work).1.IsCleared ∧
    (∀ done content ending copes rest name, work = done ++ .write content ending copes :: rest →
      (s.after naming done).2 = none →
      ((s.after naming done).1.write naming content ending).2 = .ok name →
      ∃ f ∈ (s.run naming work).1.files,
        f.name = name ∧ f.bytes = Text.Utf8.encode content.toList) ∧
    ∀ e, (s.run naming work).2 = some e ↔
      ∃ done a rest, work = done ++ a :: rest ∧ (s.after naming done).2 = none ∧
        Raises naming (s.after naming done).1 a e := by
  intro s
  have hsound (done : List ScopeStep) : IsSound naming (s.after naming done).1 :=
    (isSound_opened naming beginning).after done
  refine ⟨fun done rest _ => (hsound done).toIsTidy, fun done rest _ hdone => ?_,
    (hsound work).toIsTidy.isCleared_close, ?_, fun e => after_eq_some_iff⟩
  · rw [after_append_cons hdone rfl]
    exact (hsound done).toIsTidy.isCleared_close
  · rintro done content ending copes rest name rfl hdone hwritten
    rcases write_cases naming (s.after naming done).1 content ending with
      ⟨e, heq⟩ | ⟨given, -, ⟨e, heq⟩ | heq⟩ <;> rw [heq] at hwritten
    · exact absurd hwritten (by simp)
    · exact absurd hwritten (by simp)
    · obtain rfl := Except.ok.inj hwritten
      have hgoes : ((s.after naming done).1.step naming (.write content ending copes)).2 = none := by
        rw [step, heq]
      have hkeeps : Keeps ((s.after naming done).1.step naming (.write content ending copes)).1
          (s.run naming (done ++ .write content ending copes :: rest)).1 := by
        rw [run, after_append_cons hdone hgoes]
        exact (keeps_after naming _ rest).trans (keeps_close _)
      refine hkeeps ⟨given, _, true⟩ ?_
      rw [step_write, heq]
      exact List.mem_append_right _ (List.mem_singleton_self _)

end

end PatchReview.Scope
