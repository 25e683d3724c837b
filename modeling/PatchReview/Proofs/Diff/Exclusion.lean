import PatchReview.Diff.Exclusion
import PatchReview.Proofs.Outcome
import PatchReview.Proofs.Text.Scan

/-! Which names of a file are left out alike.

Rules know a file by its path, a reviewer knows its block by the same path with `b/` in front. Both
names are looked up without that mark (`withoutSide_withSide`), so that it makes no difference to a
path that does not start with it. A path that does, of a file below a directory `b`, loses the name
of that directory. Then there is a pattern that leaves the file out under one of its names only
(`exists_isExcluded_ne`): the shape of the whole path, which is too long for what is left of it. -/
namespace PatchReview.Diff

open Glob Glob.Pathname Text
open Text.Surrogate (code)

/-- The name that blocks go by. -/
def withSide (path : String) : String := "b/" ++ path

theorem withoutSide_withSide (path : String) : withoutSide (withSide path) = path := by
  have h : (withSide path).toList = ['b', '/'] ++ path.toList := by
    rw [withSide, String.toList_append]
    rfl
  rw [withoutSide, h, after?_append]
  exact String.ofList_toList

theorem withSide_injective : Function.Injective withSide :=
  Function.LeftInverse.injective withoutSide_withSide

theorem withoutSide_of_not_startsWith {path : String}
    (h : startsWith ['b', '/'] path.toList = false) : withoutSide path = path := by
  have hnone : after? ['b', '/'] path.toList = none := by
    rwa [startsWith, Option.isSome_eq_false_iff, Option.isNone_iff_eq_none] at h
  rw [withoutSide, hnone]

/-! ### The shape of a path -/

/-- Whether a character separates directories. -/
def isSeparator (c : Char) : Bool := c == '/' || c == '\\'

/-- A pattern for one character: a slash for what separates directories, anything else else. -/
def shapeChar (c : Char) : List Char := if isSeparator c then ['[', '/', ']'] else ['?']

def shapePart (c : Char) : Part := if isSeparator c then .set false ['/'] else .one

/-- A pattern for the paths whose directories are where those of a path are. -/
def shape (path : List Char) : List Char := path.flatMap shapeChar

theorem parts_slash (s : List Char) :
    parts ('[' :: '/' :: ']' :: s) = .set false ['/'] :: parts s := by
  have hset : cutSet ('/' :: ']' :: s) = some (.set false ['/'], s) := rfl
  rw [parts]
  split
  · rename_i part rest hcut
    obtain ⟨rfl, rfl⟩ := Prod.mk.inj (Option.some.inj (hset.symm.trans hcut))
    rfl
  · rename_i hcut
    exact absurd (hset.symm.trans hcut) (Option.some_ne_none _)

theorem parts_shape (path : List Char) :
    parts (unifySeparators (shape path)) = path.map shapePart := by
  induction path with
  | nil => rw [shape, List.flatMap_nil, unifySeparators, List.map_nil, parts, List.map_nil]
  | cons c path ih =>
    have hcons : unifySeparators (shape (c :: path)) =
        unifySeparators (shapeChar c) ++ unifySeparators (shape path) := by
      rw [shape, List.flatMap_cons, unifySeparators, List.map_append]
      rfl
    rw [hcons, List.map_cons, ← ih]
    by_cases hc : isSeparator c = true
    · rw [shapeChar, shapePart, if_pos hc, if_pos hc]
      exact parts_slash _
    · rw [shapeChar, shapePart, if_neg hc, if_neg hc]
      exact parts.eq_3 _

theorem length_shape (path : List Char) : path.length ≤ (shape path).length := by
  induction path with
  | nil => exact Nat.le_refl _
  | cons c path ih =>
    have hc : 1 ≤ (shapeChar c).length := by
      unfold shapeChar
      split <;> decide
    rw [shape, List.flatMap_cons, List.length_append, List.length_cons]
    rw [shape] at ih
    omega

theorem getLast?_shape (path : List Char) : (shape path).getLast? ≠ some '/' := by
  induction path with
  | nil => decide
  | cons c path ih =>
    rw [shape, List.flatMap_cons, List.getLast?_append]
    rw [shape] at ih
    cases hlast : (path.flatMap shapeChar).getLast? with
    | some d =>
      rw [hlast] at ih
      exact ih
    | none =>
      unfold shapeChar
      split <;> decide

theorem withoutEndSlashes_eq {s : List Char} (h : s.getLast? ≠ some '/') :
    withoutEndSlashes s = s := by
  have hdrop : s.reverse.dropWhile (· == '/') = s.reverse := by
    cases hs : s.reverse with
    | nil => rfl
    | cons c t =>
      have hc : c ≠ '/' := by
        rintro rfl
        rw [← List.head?_reverse, hs] at h
        exact h rfl
      rw [List.dropWhile_cons_of_neg (by simpa using hc)]
  rw [withoutEndSlashes, hdrop, List.reverse_reverse]

/-- What is shorter than a directory's name is neither the directory nor below it. -/
theorem isWithin_of_lt {directory path : String}
    (h : path.toList.length < (withoutEndSlashes directory.toList).length) :
    isWithin directory path = false := by
  rw [isWithin, Bool.or_eq_false_iff]
  constructor
  · rw [beq_eq_false_iff_ne]
    exact fun e => absurd (congrArg List.length e) (Nat.ne_of_lt h)
  · rw [Bool.eq_false_iff, ne_eq, startsWith_iff]
    rintro ⟨t, ht⟩
    have hlen := congrArg List.length ht
    simp only [List.length_append, List.length_cons, List.length_nil] at hlen
    omega

/-- Steps of one character each take no text that has less. -/
theorem takes_of_lt (isEnd : List Char → Bool) (test : Char → Char → Bool) {path s : List Char}
    (h : s.length < path.length) :
    Step.takes isEnd (path.map fun c => .one (test c)) s = false := by
  induction path generalizing s with
  | nil => exact absurd h (Nat.not_lt_zero _)
  | cons c path ih =>
    cases s with
    | nil => rfl
    | cons d s =>
      rw [List.map_cons, Step.takes, ih (Nat.lt_of_succ_lt_succ h), Bool.and_false]

variable [StandIns]

/-- What the shape of a character takes. -/
def shapeTest (c : Char) : Char → Bool :=
  if isSeparator c then fun d => Pattern.setTakes .exact false [.code (code '/')] (code d)
  else (· != '/')

/-- Whether a pattern can be read. -/
def Compiles (pattern : String) : Prop := ∃ compiled, Pathname.compile pattern = .ok compiled

theorem excludes_of_compiles {pattern : String} (h : Compiles pattern) (path : String) :
    ∃ out, excludes pattern path = .ok out := by
  obtain ⟨compiled, hcompiled⟩ := h
  unfold excludes
  split
  · exact ⟨_, rfl⟩
  · split
    · exact ⟨true, rfl⟩
    · rw [pathnameAccepts, Pathname.accepts, hcompiled]
      exact ⟨_, rfl⟩

theorem anyExcludes_of_compiles {patterns : List String} (h : ∀ p ∈ patterns, Compiles p)
    (path : String) : ∃ out, anyExcludes path patterns = .ok out := by
  induction patterns with
  | nil => exact ⟨false, rfl⟩
  | cons pattern rest ih =>
    obtain ⟨out, hout⟩ := excludes_of_compiles (h pattern List.mem_cons_self) path
    rw [anyExcludes, hout]
    cases out with
    | true => exact ⟨true, rfl⟩
    | false => exact ih fun p hp => h p (List.mem_cons_of_mem _ hp)

/-- Looking at a pattern fails only if it cannot be made ready. -/
theorem excludes_eq_error {pattern path : String} {e : Failure}
    (h : excludes pattern path = .error e) :
    ∃ fault, Pathname.compile pattern = .error fault ∧ e = patternFailure fault := by
  cases hcompile : Pathname.compile pattern with
  | ok compiled =>
    obtain ⟨out, hout⟩ := excludes_of_compiles ⟨compiled, hcompile⟩ path
    exact absurd (hout.symm.trans h) (by simp)
  | error fault =>
    refine ⟨fault, rfl, ?_⟩
    unfold excludes at h
    split at h
    · exact absurd h (by simp)
    · split at h
      · exact absurd h (by simp)
      · rw [pathnameAccepts, Pathname.accepts, hcompile] at h
        exact (Except.error.inj h).symm

theorem anyExcludes_eq_error {patterns : List String} {path : String} {e : Failure}
    (h : anyExcludes path patterns = .error e) :
    ∃ p ∈ patterns, ∃ fault, Pathname.compile p = .error fault ∧ e = patternFailure fault := by
  induction patterns with
  | nil => exact absurd h (by simp [anyExcludes])
  | cons pattern rest ih =>
    rw [anyExcludes] at h
    cases hout : excludes pattern path with
    | error cause =>
      rw [hout] at h
      exact ⟨pattern, List.mem_cons_self, excludes_eq_error (hout.trans h)⟩
    | ok out =>
      rw [hout] at h
      cases out with
      | true => exact absurd h (by simp)
      | false =>
        obtain ⟨p, hp, hfault⟩ := ih h
        exact ⟨p, List.mem_cons_of_mem _ hp, hfault⟩

theorem withoutExcluded_eq_error {patterns : List String} {blocks : Blocks} {e : Failure}
    (h : withoutExcluded patterns blocks = .error e) :
    ∃ p ∈ patterns, ∃ fault, Pathname.compile p = .error fault ∧ e = patternFailure fault := by
  induction blocks with
  | nil => exact absurd h (by simp [withoutExcluded])
  | cons entry rest ih =>
    obtain ⟨key, block⟩ := entry
    rw [withoutExcluded, Outcome.bind_eq_error_iff] at h
    rcases h with hkey | ⟨out, -, h⟩
    · exact anyExcludes_eq_error hkey
    · rcases Outcome.bind_eq_error_iff.1 h with hrest | ⟨kept, -, h⟩
      · exact ih hrest
      · exact absurd h (by simp [pure, Except.pure])

/-- What is left out is left out of the blocks in their order. -/
theorem sublist_of_withoutExcluded {patterns : List String} {blocks kept : Blocks}
    (h : withoutExcluded patterns blocks = .ok kept) : kept.Sublist blocks := by
  induction blocks generalizing kept with
  | nil => exact Except.ok.inj h ▸ List.Sublist.slnil
  | cons e rest ih =>
    obtain ⟨key, block⟩ := e
    rw [withoutExcluded] at h
    cases hout : isExcluded patterns key with
    | error e => exact absurd (hout ▸ h) (by simp [bind, Except.bind])
    | ok out =>
      cases hrest : withoutExcluded patterns rest with
      | error e => exact absurd (hrest ▸ hout ▸ h) (by simp [bind, Except.bind])
      | ok left =>
        rw [hout, hrest] at h
        obtain rfl := Except.ok.inj h
        cases out with
        | true => exact (ih hrest).cons _
        | false => exact (ih hrest).cons_cons _

theorem nodup_keys_of_keptBlocks {patterns : List String} {diff : String} {kept : Blocks}
    (h : keptBlocks patterns diff = .ok kept) : (Keyed.keys kept).Nodup := by
  have hsub : (Keyed.keys kept).Sublist (Keyed.keys (blocks diff)) := by
    rw [Keyed.keys, Keyed.keys]
    exact (sublist_of_withoutExcluded h).map _
  exact List.Nodup.sublist hsub (Keyed.nodup_keys_ofList _)

/-- With patterns that can be read, some of the blocks are kept. -/
theorem withoutExcluded_of_compiles {patterns : List String} (h : ∀ p ∈ patterns, Compiles p)
    (blocks : Blocks) :
    ∃ kept, withoutExcluded patterns blocks = .ok kept ∧ ∀ e ∈ kept, e ∈ blocks := by
  obtain ⟨kept, hkept⟩ : ∃ kept, withoutExcluded patterns blocks = .ok kept := by
    induction blocks with
    | nil => exact ⟨[], rfl⟩
    | cons e rest ih =>
      obtain ⟨key, block⟩ := e
      obtain ⟨out, hout⟩ := anyExcludes_of_compiles h (withoutSide key)
      obtain ⟨kept, hkept⟩ := ih
      refine ⟨if out then kept else (key, block) :: kept, ?_⟩
      rw [withoutExcluded, isExcluded, hout, hkept]
      rfl
  exact ⟨kept, hkept, fun _ he => (sublist_of_withoutExcluded hkept).subset he⟩

theorem piece_shapePart (c : Char) :
    ∃ piece, (shapePart c).piece = .ok piece ∧ piece.step = .one (shapeTest c) := by
  by_cases hc : isSeparator c = true
  · rw [shapePart, shapeTest, if_pos hc, if_pos hc]
    exact ⟨.set false [.code (code '/')], rfl, rfl⟩
  · rw [shapePart, shapeTest, if_neg hc, if_neg hc]
    exact ⟨.one, rfl, rfl⟩

theorem mapM_piece (path : List Char) :
    ∃ pieces, (path.map shapePart).mapM Part.piece = .ok pieces ∧
      pieces.map Piece.step = path.map fun c => .one (shapeTest c) := by
  induction path with
  | nil => exact ⟨[], rfl, rfl⟩
  | cons c path ih =>
    obtain ⟨piece, hpiece, hstep⟩ := piece_shapePart c
    obtain ⟨pieces, hpieces, hsteps⟩ := ih
    refine ⟨piece :: pieces, ?_, ?_⟩
    · rw [List.map_cons, List.mapM_cons, hpiece, hpieces]
      rfl
    · rw [List.map_cons, List.map_cons, hstep, hsteps]

theorem compile_shape (path : List Char) :
    ∃ pieces, Pathname.compile (String.ofList (shape path)) = .ok (.pieces pieces) ∧
      pieces.map Piece.step = path.map fun c => .one (shapeTest c) := by
  obtain ⟨pieces, hpieces, hsteps⟩ := mapM_piece path
  have hwhole : (path.map shapePart).any Part.isCutShort = false := by
    rw [List.any_map, List.any_eq_false]
    intro c _
    unfold Function.comp shapePart
    split <;> exact Bool.false_ne_true
  refine ⟨pieces, ?_, hsteps⟩
  rw [Pathname.compile, String.toList_ofList, parts_shape, compileParts, hwhole, hpieces]
  rfl

/-! ### What a shape leaves out -/

theorem shapeTest_self (c : Char) : shapeTest c (if c == '\\' then '/' else c) = true := by
  unfold shapeTest isSeparator
  by_cases hback : c = '\\'
  · simp [hback, Pattern.setTakes, Pattern.SetItem.takes, Pattern.Folding.takes,
        Pattern.Folding.forms]
  · by_cases hslash : c = '/'
    · simp [hslash, Pattern.setTakes, Pattern.SetItem.takes, Pattern.Folding.takes,
        Pattern.Folding.forms]
    · simp [hback, hslash]

theorem takes_self (isEnd : List Char → Bool) (hend : isEnd [] = true) (path : List Char) :
    Step.takes isEnd (path.map fun c => .one (shapeTest c)) (unifySeparators path) = true := by
  induction path with
  | nil => exact hend
  | cons c path ih =>
    rw [List.map_cons, unifySeparators, List.map_cons, Step.takes, Bool.and_eq_true]
    exact ⟨shapeTest_self c, ih⟩

theorem excludes_shape_self (path : String) :
    excludes (String.ofList (shape path.toList)) path = .ok true := by
  obtain ⟨pieces, hcompile, hsteps⟩ := compile_shape path.toList
  have haccepts : pathnameAccepts (String.ofList (shape path.toList)) path = .ok true := by
    have htakes := takes_self atPathEnd rfl path.toList
    rw [pathnameAccepts, Pathname.accepts, hcompile]
    simp only [Except.map, Compiled.takes, Step.accepts_eq, hsteps, htakes, Except.mapError]
  have hlast := getLast?_shape path.toList
  rw [excludes, String.toList_ofList, if_neg hlast]
  split
  · rfl
  · exact haccepts

theorem excludes_shape_of_lt {path : List Char} {other : String}
    (h : other.toList.length < path.length) :
    excludes (String.ofList (shape path)) other = .ok false := by
  obtain ⟨pieces, hcompile, hsteps⟩ := compile_shape path
  have hlast := getLast?_shape path
  have hwithin : isWithin (String.ofList (shape path)) other = false := by
    refine isWithin_of_lt ?_
    rw [String.toList_ofList, withoutEndSlashes_eq hlast]
    exact Nat.lt_of_lt_of_le h (length_shape path)
  have hlen : (unifySeparators other.toList).length < path.length := by
    rwa [unifySeparators, List.length_map]
  rw [excludes, String.toList_ofList, if_neg hlast, hwithin, Bool.and_false,
    if_neg Bool.false_ne_true, pathnameAccepts, Pathname.accepts, hcompile]
  simp only [Except.map, Compiled.takes, Step.accepts_eq, hsteps, takes_of_lt _ _ hlen,
    Except.mapError]

/-- A path that starts like a block's name is left out by some pattern under one name only. -/
theorem exists_isExcluded_ne {path : String} (h : startsWith ['b', '/'] path.toList = true) :
    ∃ pattern, Compiles pattern ∧ isExcluded [pattern] path = .ok false ∧
      isExcluded [pattern] (withSide path) = .ok true := by
  obtain ⟨rest, hrest⟩ := (startsWith_iff _ _).1 h
  have hwithout : withoutSide path = String.ofList rest := by
    rw [withoutSide, hrest, after?_append]
  have hlt : (String.ofList rest).toList.length < path.toList.length := by
    rw [String.toList_ofList, hrest, List.length_append]
    exact Nat.lt_add_of_pos_left (by decide)
  obtain ⟨pieces, hcompile, -⟩ := compile_shape path.toList
  refine ⟨String.ofList (shape path.toList), ⟨_, hcompile⟩, ?_, ?_⟩
  · rw [isExcluded, hwithout, anyExcludes, excludes_shape_of_lt hlt]
    rfl
  · rw [isExcluded, withoutSide_withSide, anyExcludes, excludes_shape_self]

/-- Rules and reviewers leave out the same paths, whatever the patterns, exactly if the path does
not start like a block's name. -/
theorem isExcluded_withSide_iff (path : String) :
    (∀ patterns, (∀ pattern ∈ patterns, Compiles pattern) →
        isExcluded patterns path = isExcluded patterns (withSide path)) ↔
      startsWith ['b', '/'] path.toList = false := by
  constructor
  · intro h
    by_contra hb
    obtain ⟨pattern, hcompiles, hout, hin⟩ := exists_isExcluded_ne ((Bool.not_eq_false _).mp hb)
    have hsame := h [pattern] fun p hp => List.mem_singleton.1 hp ▸ hcompiles
    rw [hout, hin] at hsame
    exact absurd hsame (by simp)
  · intro h patterns _
    rw [isExcluded, isExcluded, withoutSide_of_not_startsWith h, withoutSide_withSide]

end PatchReview.Diff
