import Mathlib.Data.List.Forall2
import PatchReview.Proofs.Diff.Origin

/-! Which lines of a text are added lines, said by looking back.

A line is entered if it starts with one or two plus signs and there is a hunk header above it with
no target header in between (`IsRecorded`). Its file is named by the last target header above, and
its number is the start of the hunk with the plus signs in between. Reading forward enters exactly
these lines, in order, and names exactly the files of target headers and entered lines
(`readsAs_ofLines`): what is kept between two lines is what looking back from there finds
(`file_run`, `next_run_eq_some_iff`). -/
namespace PatchReview.AddedLines

open Diff Text

/-! ### Looking back -/

/-- The file that the last target header names. -/
def lastTarget? (above : List (List Char)) : Option String :=
  (above.filterMap targetPath?).getLast?.map String.ofList

/-- Whether a line starts with a plus sign. -/
def isPlus (line : List Char) : Bool := line.head? == some '+'

/-- The last hunk header starts at a number, with some lines behind it. None of these is a header
of either kind. -/
structure IsHunk (above : List (List Char)) (start : Nat) (between : List (List Char)) : Prop where
  header : ∃ before line digits, above = before ++ line :: between ∧
    hunkStart? line = some digits ∧ start = digitsValue digits
  plain : ∀ line ∈ between, targetPath? line = none ∧ hunkStart? line = none

/-- A line with some lines above it is entered for a file. -/
structure IsRecorded (above : List (List Char)) (line : List Char) (path : String)
    (added : AddedLine) : Prop where
  line_eq : line = '+' :: added.content.toList
  unmarked : ¬['+', '+', '+'] <+: line
  path_eq : path = (lastTarget? above).getD ""
  number_eq : ∃ start between, IsHunk above start between ∧
    added.number = (start + between.countP isPlus : Nat)

/-- A line with some lines above it names a file: in a header or by being entered for it. -/
def NamesFile (above : List (List Char)) (line : List Char) (path : String) : Prop :=
  targetPath? line = some path.toList ∨ ∃ added, IsRecorded above line path added

/-- The line at a place has a property together with the lines above it. -/
def HoldsAt (p : List (List Char) → List Char → Prop) (lines : List (List Char)) (i : Nat) : Prop :=
  ∃ line, lines[i]? = some line ∧ p (lines.take i) line

/-- The line at a place is entered for a file. -/
def EntersAt (lines : List (List Char)) (path : String) (i : Nat) (added : AddedLine) : Prop :=
  HoldsAt (IsRecorded · · path added) lines i

/-- The line at a place names a file. -/
def NamesAt (lines : List (List Char)) (i : Nat) (path : String) : Prop :=
  HoldsAt (NamesFile · · path) lines i

/-- The line at a place is the first one that names a file. -/
structure NamesFirst (lines : List (List Char)) (i : Nat) (path : String) : Prop where
  names : NamesAt lines i path
  first : ∀ j < i, ¬NamesAt lines j path

/-- Entries are the lines that are entered for a file, one for each of them and in order. -/
def EnteredAs (lines : List (List Char)) (path : String) (entries : List AddedLine) : Prop :=
  ∃ places : List Nat, places.Pairwise (· < ·) ∧
    List.Forall₂ (EntersAt lines path) places entries ∧
      ∀ i added, EntersAt lines path i added → i ∈ places

/-- Paths are the files that are named, in the order in which they are named first. -/
def NamedAs (lines : List (List Char)) (paths : List String) : Prop :=
  ∃ places : List Nat, places.Pairwise (· < ·) ∧
    List.Forall₂ (NamesFirst lines) places paths ∧ ∀ i path, NamesAt lines i path → path ∈ paths

/-- Added lines are those of a text. -/
structure ReadsAs (lines : List (List Char)) (files : AddedLines) : Prop where
  keys : NamedAs lines (Keyed.keys files)
  entries : ∀ path, EnteredAs lines path ((files.get? path).getD [])

/-! ### Where reading stands -/

theorem lastTarget?_concat_of_target {line path : List Char} (h : targetPath? line = some path)
    (above : List (List Char)) : lastTarget? (above ++ [line]) = some (String.ofList path) := by
  simp [lastTarget?, List.filterMap_append, h]

theorem lastTarget?_concat_of_none {line : List Char} (h : targetPath? line = none)
    (above : List (List Char)) : lastTarget? (above ++ [line]) = lastTarget? above := by
  simp [lastTarget?, List.filterMap_append, h]

/-- A hunk with one more line: the line is no header, or it is the header. -/
theorem isHunk_concat {above : List (List Char)} {line : List Char} {start : Nat}
    {between : List (List Char)} :
    IsHunk (above ++ [line]) start between ↔
      (between = [] ∧ ∃ digits, hunkStart? line = some digits ∧ start = digitsValue digits) ∨
        ∃ rest, between = rest ++ [line] ∧ IsHunk above start rest ∧
          targetPath? line = none ∧ hunkStart? line = none := by
  constructor
  · rintro ⟨⟨before, header, digits, hsplit, hheader, hstart⟩, hplain⟩
    rcases List.eq_nil_or_concat between with rfl | ⟨rest, last, rfl⟩
    · obtain ⟨-, hline⟩ := List.append_inj' hsplit rfl
      obtain rfl := (List.cons.inj hline).1
      exact .inl ⟨rfl, digits, hheader, hstart⟩
    · have hsplit' : above ++ [line] = (before ++ header :: rest) ++ [last] := by
        rw [hsplit, List.append_assoc, List.cons_append, List.concat_eq_append]
      obtain ⟨rfl, hline⟩ := List.append_inj' hsplit' rfl
      obtain rfl := (List.cons.inj hline).1
      rw [List.concat_eq_append] at hplain
      refine .inr ⟨rest, List.concat_eq_append, ⟨⟨before, header, digits, rfl, hheader, hstart⟩,
        fun l hl => hplain l (List.mem_append_left _ hl)⟩, ?_⟩
      exact hplain line (List.mem_append_right _ (List.mem_singleton_self line))
  · rintro (⟨rfl, digits, hheader, hstart⟩ | ⟨rest, rfl, ⟨hhunk, hplain⟩, hline⟩)
    · exact ⟨⟨above, line, digits, rfl, hheader, hstart⟩, fun l hl => absurd hl List.not_mem_nil⟩
    · obtain ⟨before, header, digits, rfl, hheader, hstart⟩ := hhunk
      refine ⟨⟨before, header, digits, by simp, hheader, hstart⟩, fun l hl => ?_⟩
      rcases List.mem_append.1 hl with hl | hl
      · exact hplain l hl
      · exact List.mem_singleton.1 hl ▸ hline

namespace Place

theorem run_concat (p : Place) (lines : List (List Char)) (line : List Char) :
    p.run (lines ++ [line]) = (p.run lines).after line := List.foldl_concat _ _ _ _

/-- What a line does to the place, said by its kind. -/
theorem after_cases (p : Place) (line : List Char) :
    (∃ path, targetPath? line = some path ∧ p.after line = ⟨some (String.ofList path), none⟩) ∨
    (targetPath? line = none ∧ ∃ digits, hunkStart? line = some digits ∧
      p.after line = { p with next := some (digitsValue digits : Nat) }) ∨
    (targetPath? line = none ∧ hunkStart? line = none ∧
      p.after line = { p with next := p.next.map (· + ([line].countP isPlus : Nat)) }) := by
  cases htarget : targetPath? line with
  | some path => exact .inl ⟨path, rfl, after_of_target htarget p⟩
  | none =>
    cases hhunk : hunkStart? line with
    | some digits => exact .inr (.inl ⟨rfl, digits, rfl, after_of_hunk hhunk p⟩)
    | none =>
      refine .inr (.inr ⟨rfl, rfl, ?_⟩)
      by_cases hplus : line.head? = some '+'
      · obtain ⟨content, rfl⟩ := List.head?_eq_some_iff.1 hplus
        exact after_added htarget p
      · have hcount : [line].countP isPlus = 0 := by simp [isPlus, hplus]
        rw [after_of_idle ⟨htarget, hhunk, hplus⟩, hcount]
        simp

/-- The file at hand is that of the last target header. -/
theorem file_run (lines : List (List Char)) : (start.run lines).file = lastTarget? lines := by
  induction lines using List.reverseRecOn with
  | nil => rfl
  | append_singleton lines line ih =>
    rw [run_concat]
    rcases after_cases (start.run lines) line with
      ⟨path, htarget, hafter⟩ | ⟨htarget, digits, -, hafter⟩ | ⟨htarget, -, hafter⟩
    · rw [hafter, lastTarget?_concat_of_target htarget]
    · rw [hafter, lastTarget?_concat_of_none htarget]
      exact ih
    · rw [hafter, lastTarget?_concat_of_none htarget]
      exact ih

/-- The next number is that of the last hunk with the plus signs behind its header. -/
theorem next_run_eq_some_iff (lines : List (List Char)) (n : Int) :
    (start.run lines).next = some n ↔ ∃ first between, IsHunk lines first between ∧
      n = (first + between.countP isPlus : Nat) := by
  induction lines using List.reverseRecOn generalizing n with
  | nil =>
    refine iff_of_false (Option.some_ne_none n).symm ?_
    rintro ⟨first, between, ⟨⟨before, line, digits, hsplit, -⟩, -⟩, -⟩
    exact absurd hsplit.symm (List.append_ne_nil_of_right_ne_nil _ (List.cons_ne_nil _ _))
  | append_singleton lines line ih =>
    simp only [run_concat, isHunk_concat]
    rcases after_cases (start.run lines) line with
      ⟨path, htarget, hafter⟩ | ⟨htarget, digits, hhunk, hafter⟩ | ⟨htarget, hhunk, hafter⟩
    · rw [hafter]
      refine iff_of_false (Option.some_ne_none n).symm ?_
      rintro ⟨first, between, ⟨-, digits, hhunk, -⟩ | ⟨rest, -, -, hnone, -⟩, -⟩
      · rw [targetPath?_of_hunk hhunk] at htarget
        exact Option.some_ne_none path htarget.symm
      · exact Option.some_ne_none path (htarget.symm.trans hnone)
    · rw [hafter]
      constructor
      · intro hn
        obtain rfl := Option.some.inj hn
        exact ⟨_, [], .inl ⟨rfl, digits, hhunk, rfl⟩, rfl⟩
      · rintro ⟨first, between, ⟨rfl, digits', hhunk', rfl⟩ | ⟨rest, -, -, -, hnone⟩, rfl⟩
        · obtain rfl := Option.some.inj (hhunk.symm.trans hhunk')
          rfl
        · exact absurd (hhunk.symm.trans hnone) (Option.some_ne_none digits)
    · rw [hafter, Option.map_eq_some_iff]
      constructor
      · rintro ⟨m, hm, rfl⟩
        obtain ⟨first, between, hbetween, rfl⟩ := (ih m).1 hm
        refine ⟨first, between ++ [line], .inr ⟨between, rfl, hbetween, htarget, hhunk⟩, ?_⟩
        rw [List.countP_append]
        push_cast
        omega
      · rintro ⟨first, between, ⟨-, digits, hsome, -⟩ | ⟨rest, rfl, hrest, -⟩, rfl⟩
        · exact absurd (hsome.symm.trans hhunk) (Option.some_ne_none digits)
        · refine ⟨_, (ih _).2 ⟨first, rest, hrest, rfl⟩, ?_⟩
          rw [List.countP_append]
          push_cast
          omega

end Place

/-! ### What a line notes -/

theorem startsWith_plusPlus_iff {content : List Char} :
    startsWith ['+', '+'] content = true ↔ ['+', '+', '+'] <+: '+' :: content := by
  rw [startsWith_iff, List.cons_prefix_cons, eq_self_iff_true, true_and]
  exact ⟨fun ⟨rest, h⟩ => ⟨rest, h.symm⟩, fun ⟨rest, h⟩ => ⟨rest, h.symm⟩⟩

theorem plusses_prefix_of_target {line path : List Char} (h : targetPath? line = some path) :
    ['+', '+', '+'] <+: line := by
  obtain ⟨_, _⟩ := (targetPath?_eq_some_iff line path).1 h
  exact List.prefix_append ['+', '+', '+'] _

/-- A line is entered if it notes an added line where reading stands. -/
theorem isRecorded_iff (above : List (List Char)) (line : List Char) (path : String)
    (added : AddedLine) : IsRecorded above line path added ↔
      (Place.start.run above).note? line = some (path, [added]) := by
  constructor
  · rintro ⟨rfl, hunmarked, rfl, hnumber⟩
    have htarget : targetPath? ('+' :: added.content.toList) = none := by
      cases h : targetPath? ('+' :: added.content.toList) with
      | none => rfl
      | some path => exact absurd (plusses_prefix_of_target h) hunmarked
    have hnext := (Place.next_run_eq_some_iff above added.number).2 hnumber
    rw [Place.note?_added htarget, if_neg (hunmarked ∘ startsWith_plusPlus_iff.1), hnext,
      Place.file_run, Option.map_some, String.ofList_toList]
  · intro hnote
    cases htarget : targetPath? line with
    | some target =>
      rw [Place.note?_of_target htarget] at hnote
      simp at hnote
    | none =>
      cases hhunk : hunkStart? line with
      | some digits =>
        rw [Place.note?_of_hunk hhunk] at hnote
        exact absurd hnote.symm (Option.some_ne_none _)
      | none =>
        by_cases hplus : line.head? = some '+'
        · obtain ⟨content, rfl⟩ := List.head?_eq_some_iff.1 hplus
          rw [Place.note?_added htarget] at hnote
          split at hnote
          · exact absurd hnote.symm (Option.some_ne_none _)
          · rename_i hmark
            obtain ⟨n, hn, heq⟩ := Option.map_eq_some_iff.1 hnote
            simp only [Prod.mk.injEq, List.cons.injEq, and_true] at heq
            obtain ⟨hpath, rfl⟩ := heq
            refine ⟨by rw [String.toList_ofList], hmark ∘ startsWith_plusPlus_iff.2, ?_,
              (Place.next_run_eq_some_iff above n).1 hn⟩
            rw [← hpath, Place.file_run]
        · rw [Place.note?_of_idle ⟨htarget, hhunk, hplus⟩] at hnote
          exact absurd hnote.symm (Option.some_ne_none _)

/-- What a line notes is the file of a header, or one line. -/
theorem Place.note?_cases {p : Place} {line : List Char} {note : Note}
    (h : p.note? line = some note) :
    (note.2 = [] ∧ targetPath? line = some note.1.toList) ∨
      (targetPath? line = none ∧ ∃ added, note.2 = [added]) := by
  unfold note? at h
  split at h
  · rename_i path htarget
    obtain rfl := Option.some.inj h
    exact .inl ⟨rfl, by rw [htarget, String.toList_ofList]⟩
  · rename_i htarget
    split at h
    · exact absurd h.symm (Option.some_ne_none note)
    · split at h
      · split at h
        · exact absurd h.symm (Option.some_ne_none note)
        · obtain rfl := Option.some.inj h
          exact .inr ⟨htarget, _, rfl⟩
      · exact absurd h.symm (Option.some_ne_none note)

/-- A line names a file if it notes something for it where reading stands. -/
theorem namesFile_iff (above : List (List Char)) (line : List Char) (path : String) :
    NamesFile above line path ↔
      ∃ entries, (Place.start.run above).note? line = some (path, entries) := by
  constructor
  · rintro (htarget | ⟨added, hadded⟩)
    · exact ⟨[], by rw [Place.note?_of_target htarget, String.ofList_toList]⟩
    · exact ⟨[added], (isRecorded_iff above line path added).1 hadded⟩
  · rintro ⟨entries, hnote⟩
    rcases Place.note?_cases hnote with ⟨-, htarget⟩ | ⟨-, added, rfl⟩
    · exact .inl htarget
    · exact .inr ⟨added, (isRecorded_iff above line path added).2 hnote⟩

/-! ### One more line -/

section Concat

variable {lines : List (List Char)} {line : List Char}

theorem HoldsAt.lt_length {p : List (List Char) → List Char → Prop} {i : Nat}
    (h : HoldsAt p lines i) : i < lines.length :=
  (List.getElem?_eq_some_iff.1 h.choose_spec.1).1

theorem holdsAt_concat {p : List (List Char) → List Char → Prop} {i : Nat} :
    HoldsAt p (lines ++ [line]) i ↔ HoldsAt p lines i ∨ (i = lines.length ∧ p lines line) := by
  rcases Nat.lt_trichotomy i lines.length with hlt | rfl | hgt
  · simp only [HoldsAt, List.getElem?_append_left hlt,
      List.take_append_of_le_length (Nat.le_of_lt hlt), Nat.ne_of_lt hlt, false_and, or_false]
  · simp [HoldsAt]
  · refine iff_of_false (fun h => ?_) ?_
    · have hlt := h.lt_length
      rw [List.length_append, List.length_singleton] at hlt
      omega
    · rintro (h | ⟨rfl, -⟩)
      · exact absurd h.lt_length (Nat.lt_asymm hgt)
      · exact absurd hgt (Nat.lt_irrefl _)

theorem pairwise_concat {places : List Nat} {n : Nat} (h : places.Pairwise (· < ·))
    (hlt : ∀ i ∈ places, i < n) : (places ++ [n]).Pairwise (· < ·) := by
  refine List.pairwise_append.2 ⟨h, List.pairwise_singleton _ _, fun i hi j hj => ?_⟩
  rw [List.mem_singleton.1 hj]
  exact hlt i hi

/-- An added line behind the entries so far is one more of them. -/
theorem EnteredAs.concat {path : String} {entries : List AddedLine}
    (h : EnteredAs lines path entries) (line : List Char) (more : List AddedLine)
    (hmore : ∀ added, IsRecorded lines line path added ↔ more = [added])
    (hcases : more = [] ∨ ∃ added, more = [added]) :
    EnteredAs (lines ++ [line]) path (entries ++ more) := by
  obtain ⟨places, hordered, hentered, hall⟩ := h
  have hkept : List.Forall₂ (EntersAt (lines ++ [line]) path) places entries :=
    hentered.imp fun _ _ hi => holdsAt_concat.2 (.inl hi)
  rcases hcases with rfl | ⟨added, rfl⟩
  · refine ⟨places, hordered, (List.append_nil entries).symm ▸ hkept, fun i other hi => ?_⟩
    rcases holdsAt_concat.1 hi with hi | ⟨-, hnew⟩
    · exact hall i other hi
    · exact absurd ((hmore other).1 hnew) (List.cons_ne_nil other []).symm
  · have hlt := (List.forall₂_and_left _ _).1 (hentered.imp fun i _ hi => ⟨hi.lt_length, hi⟩)
    refine ⟨places ++ [lines.length], pairwise_concat hordered hlt.1, ?_, fun i other hi => ?_⟩
    · refine List.rel_append hkept (.cons (holdsAt_concat.2 (.inr ⟨rfl, ?_⟩)) .nil)
      exact (hmore added).2 rfl
    · rcases holdsAt_concat.1 hi with hi | ⟨rfl, -⟩
      · exact List.mem_append_left _ (hall i other hi)
      · exact List.mem_append_right _ (List.mem_singleton_self _)

theorem NamesFirst.concat {path : String} {i : Nat} (h : NamesFirst lines i path) :
    NamesFirst (lines ++ [line]) i path := by
  refine ⟨holdsAt_concat.2 (.inl h.names), fun j hj hnames => ?_⟩
  rcases holdsAt_concat.1 hnames with hnames | ⟨rfl, -⟩
  · exact h.first j hj hnames
  · exact absurd h.names.lt_length (Nat.lt_asymm hj)

/-- A file that is named behind the files so far is one more of them, unless it is one of them. -/
theorem NamedAs.concat {paths : List String} (h : NamedAs lines paths) (line : List Char)
    (path : String) (hpath : ∀ other, NamesFile lines line other ↔ other = path) :
    NamedAs (lines ++ [line]) (if path ∈ paths then paths else paths ++ [path]) := by
  obtain ⟨places, hordered, hnamed, hall⟩ := h
  have hkept : List.Forall₂ (NamesFirst (lines ++ [line])) places paths :=
    hnamed.imp fun _ _ hi => hi.concat
  split
  · rename_i hmem
    refine ⟨places, hordered, hkept, fun i other hi => ?_⟩
    rcases holdsAt_concat.1 hi with hi | ⟨-, hnew⟩
    · exact hall i other hi
    · exact (hpath other).1 hnew ▸ hmem
  · rename_i hmem
    have hlt := (List.forall₂_and_left _ _).1 (hnamed.imp fun i _ hi => ⟨hi.names.lt_length, hi⟩)
    refine ⟨places ++ [lines.length], pairwise_concat hordered hlt.1, ?_, fun i other hi => ?_⟩
    · refine List.rel_append hkept (.cons ⟨holdsAt_concat.2 (.inr ⟨rfl, ?_⟩), ?_⟩ .nil)
      · exact (hpath path).2 rfl
      · intro j hj hnames
        rcases holdsAt_concat.1 hnames with hnames | ⟨rfl, -⟩
        · exact hmem (hall j path hnames)
        · exact absurd hj (Nat.lt_irrefl _)
    · rcases holdsAt_concat.1 hi with hi | ⟨-, hnew⟩
      · exact List.mem_append_left _ (hall i other hi)
      · exact List.mem_append_right _ (List.mem_singleton.2 ((hpath other).1 hnew))

/-- A line that names no file changes no names. -/
theorem NamedAs.concat_of_none {paths : List String} (h : NamedAs lines paths)
    (hnone : ∀ path, ¬NamesFile lines line path) : NamedAs (lines ++ [line]) paths := by
  obtain ⟨places, hordered, hnamed, hall⟩ := h
  refine ⟨places, hordered, hnamed.imp fun _ _ hi => hi.concat, fun i path hi => ?_⟩
  rcases holdsAt_concat.1 hi with hi | ⟨-, hnew⟩
  · exact hall i path hi
  · exact absurd hnew (hnone path)

theorem get?_extend (files : AddedLines) (note : Note) (path : String) :
    ((extend files note).get? path).getD [] =
      (files.get? path).getD [] ++ if path = note.1 then note.2 else [] := by
  split
  · rename_i hpath
    rw [hpath, extend, Keyed.get?_alter_self, Option.getD_some]
  · rename_i hpath
    rw [extend, Keyed.get?_alter_of_ne hpath, List.append_nil]

/-- Adding what the next line notes. -/
theorem ReadsAs.concat {files : AddedLines} (h : ReadsAs lines files) :
    ReadsAs (lines ++ [line])
      (((Place.start.run lines).note? line).toList.foldl extend files) := by
  cases hnote : (Place.start.run lines).note? line with
  | none =>
    refine ⟨h.keys.concat_of_none fun path hpath => ?_, fun path => ?_⟩
    · obtain ⟨entries, hentries⟩ := (namesFile_iff lines line path).1 hpath
      exact absurd (hnote.symm.trans hentries) (Option.some_ne_none _).symm
    · have hentries := (h.entries path).concat line []
        (fun added => by simp [isRecorded_iff, hnote]) (.inl rfl)
      rwa [List.append_nil] at hentries
  | some note =>
    refine ⟨?_, fun path => ?_⟩
    · have hkeys := h.keys.concat line note.1 fun other => by
        rw [namesFile_iff, hnote]
        constructor
        · rintro ⟨entries, heq⟩
          exact (congrArg Prod.fst (Option.some.inj heq)).symm
        · rintro rfl
          exact ⟨note.2, rfl⟩
      rw [← Keyed.keys_alter] at hkeys
      exact hkeys
    · have hentries := (h.entries path).concat line (if path = note.1 then note.2 else [])
        (fun added => ?_) ?_
      · rw [← get?_extend] at hentries
        exact hentries
      · rw [isRecorded_iff, hnote, Option.some.injEq, Prod.ext_iff]
        split
        · rename_i hpath
          exact and_iff_right hpath.symm
        · rename_i hpath
          exact iff_of_false (fun heq => hpath heq.1.symm) (List.cons_ne_nil added []).symm
      · split
        · exact (Place.note?_cases hnote).imp And.left And.right
        · exact .inl rfl

end Concat

/-! ### All lines -/

theorem readsAs_nil : ReadsAs [] [] := by
  have hnone : ∀ {p : List (List Char) → List Char → Prop} {i : Nat}, ¬HoldsAt p [] i :=
    fun h => Nat.not_lt_zero _ h.lt_length
  exact ⟨⟨[], .nil, .nil, fun _ _ h => absurd h hnone⟩,
    fun _ => ⟨[], .nil, .nil, fun _ _ h => absurd h hnone⟩⟩

/-- What is read from some lines is what looking back finds. -/
theorem readsAs_lines (lines : List (List Char)) : ReadsAs lines (ofLines lines) := by
  induction lines using List.reverseRecOn with
  | nil => exact readsAs_nil
  | append_singleton lines line ih =>
    rw [ofLines_eq_gather] at ih ⊢
    rw [Place.notes_append, gather_append, Place.notes, Place.notes, List.append_nil]
    exact ih.concat

/-- A text without carriage returns is read as its lines, at the values of the hunk starts; only a
start with too many digits keeps it from being read. -/
theorem readsAs_ofLines (diff : String) (h : '\r' ∉ diff.toList) :
    ReadsAs (splitNewlines diff.toList) (ofLines (splitLines diff.toList)) ∧
      ((∃ digits, HasLongStart digitLimit (splitLines diff.toList) digits) ∨
        ofDiff diff = .ok (ofLines (splitLines diff.toList))) := by
  refine ⟨?_, ?_⟩
  · rw [splitLines_eq_splitNewlines _ h]
    exact readsAs_lines _
  · cases hread : ofDiff diff with
    | error e =>
      obtain ⟨digits, hlong, -⟩ := exists_long_of_ofDiff hread
      exact .inl ⟨digits, hlong⟩
    | ok files => exact .inr (congrArg Except.ok (ofDiff_eq_ok hread))

/-- A hunk before any header, and a header that names no file behind the last hunk. -/
theorem readsAs_malformed :
    ReadsAs (splitNewlines
        "@@ -1 +5 @@\n+a\n+++ b/f\n+x\n@@ -0,0 +1 @@\n ++ z\n+++ z\n+b\n".toList)
      [("", [⟨5, "a"⟩]), ("f", [⟨2, "b"⟩])] := by
  have hreads := (readsAs_ofLines
    "@@ -1 +5 @@\n+a\n+++ b/f\n+x\n@@ -0,0 +1 @@\n ++ z\n+++ z\n+b\n" (by decide +kernel)).1
  have heval : ofLines (splitLines
      "@@ -1 +5 @@\n+a\n+++ b/f\n+x\n@@ -0,0 +1 @@\n ++ z\n+++ z\n+b\n".toList) =
      [("", [⟨5, "a"⟩]), ("f", [⟨2, "b"⟩])] := by decide +kernel
  rwa [heval] at hreads

end PatchReview.AddedLines
