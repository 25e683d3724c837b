import Mathlib.Data.List.TakeWhile
import PatchReview.Proofs.Diff.Exclusion
import PatchReview.Proofs.Glob.Pathname

/-! Which patterns are read alike with slashes for backslashes.

A path pattern is, on both sides of a match, but the name of a directory is compared as it is
written. So the two rules can disagree on a path (`Misread`): with slashes the path lies in the
directory that the pattern names, and as they are written it does not; or the pattern, which then
is no name any more, takes a path that is not in the directory. No other path is left out
differently, and there always is one if the pattern with slashes names a directory
(`excludes_unified_iff`). -/
namespace PatchReview.Diff

open Glob Glob.Pathname Text

/-- A text with slashes for backslashes. -/
def unified (s : String) : String := String.ofList (unifySeparators s.toList)

/-- Whether a pattern ends in a character. -/
def EndsIn (c : Char) (pattern : String) : Prop := pattern.toList.getLast? = some c

/-- Whether a pattern is read as the name of a directory. -/
def NamesDirectory (pattern : String) : Prop :=
  EndsIn '/' pattern ∨
    '.' ∉ pattern.toList ∧ ('/' ∈ pattern.toList ∨ pattern ∈ commonDirectories)

theorem maybeDirectory_iff (pattern : String) :
    maybeDirectory pattern = true ↔
      '.' ∉ pattern.toList ∧ ('/' ∈ pattern.toList ∨ pattern ∈ commonDirectories) := by
  simp [maybeDirectory]

/-! ### Slashes for backslashes -/

theorem toList_unified (s : String) : (unified s).toList = unifySeparators s.toList :=
  String.toList_ofList

theorem unified_of_notMem {s : String} (h : '\\' ∉ s.toList) : unified s = s := by
  rw [unified, unifySeparators_of_notMem h, String.ofList_toList]

theorem unifySeparators_append (s t : List Char) :
    unifySeparators (s ++ t) = unifySeparators s ++ unifySeparators t := List.map_append

theorem unifySeparators_replicate (n : Nat) :
    unifySeparators (List.replicate n '/') = List.replicate n '/' := List.map_replicate

theorem unifySeparators_unifySeparators (s : List Char) :
    unifySeparators (unifySeparators s) = unifySeparators s :=
  unifySeparators_of_notMem (backslash_notMem_unifySeparators s)

theorem endsIn_unified_iff (pattern : String) :
    EndsIn '/' (unified pattern) ↔ EndsIn '/' pattern ∨ EndsIn '\\' pattern := by
  rw [EndsIn, EndsIn, EndsIn, toList_unified, unifySeparators, List.getLast?_map]
  cases pattern.toList.getLast? with
  | none => simp
  | some c =>
    by_cases hc : c = '\\'
    · simp [hc]
    · simp [hc]

theorem NamesDirectory.unified {pattern : String} (h : NamesDirectory pattern) :
    NamesDirectory (unified pattern) := by
  obtain hlast | ⟨hpoint, hname⟩ := h
  · exact .inl ((endsIn_unified_iff pattern).2 (.inl hlast))
  · have hplain : ∀ name ∈ commonDirectories, '\\' ∉ name.toList := by decide
    refine .inr ⟨?_, ?_⟩
    · rw [toList_unified, mem_unifySeparators_iff (by decide) (by decide)]
      exact hpoint
    · obtain hslash | hcommon := hname
      · left
        rw [toList_unified]
        exact List.mem_map.2 ⟨'/', hslash, rfl⟩
      · right
        rw [unified_of_notMem (hplain pattern hcommon)]
        exact hcommon

/-! ### Directories and what lies in them -/

theorem withoutEndSlashes_append_replicate (s : List Char) (n : Nat) :
    withoutEndSlashes (s ++ List.replicate n '/') = withoutEndSlashes s := by
  rw [withoutEndSlashes, withoutEndSlashes, List.reverse_append, List.reverse_replicate,
    List.dropWhile_append_of_pos]
  simp

theorem exists_eq_withoutEndSlashes (s : List Char) :
    ∃ n, s = withoutEndSlashes s ++ List.replicate n '/' := by
  refine ⟨(s.reverse.takeWhile (· == '/')).length, ?_⟩
  have hslashes : s.reverse.takeWhile (· == '/') =
      List.replicate (s.reverse.takeWhile (· == '/')).length '/' := by
    refine List.eq_replicate_iff.2 ⟨rfl, fun c hc => ?_⟩
    exact beq_iff_eq.1 (List.mem_takeWhile_imp (p := (· == '/')) hc)
  have hcut := List.takeWhile_append_dropWhile (p := (· == '/')) (l := s.reverse)
  rw [hslashes] at hcut
  have := congrArg List.reverse hcut
  rw [List.reverse_append, List.reverse_replicate, List.reverse_reverse] at this
  exact this.symm

theorem backslash_notMem_withoutEndSlashes (s : List Char) :
    '\\' ∉ withoutEndSlashes (unifySeparators s) := by
  obtain ⟨n, hn⟩ := exists_eq_withoutEndSlashes (unifySeparators s)
  intro hmem
  refine backslash_notMem_unifySeparators s ?_
  rw [hn]
  exact List.mem_append_left _ hmem

theorem isWithin_iff (directory path : String) :
    isWithin directory path = true ↔ path.toList = withoutEndSlashes directory.toList ∨
      ∃ rest, path.toList = withoutEndSlashes directory.toList ++ '/' :: rest := by
  simp [isWithin, startsWith_iff]

/-- The slashes that stand at the end of a directory's name only once backslashes are slashes. -/
theorem exists_unifySeparators_withoutEndSlashes (s : List Char) :
    ∃ n, unifySeparators (withoutEndSlashes s) =
      withoutEndSlashes (unifySeparators s) ++ List.replicate n '/' := by
  obtain ⟨n, hn⟩ := exists_eq_withoutEndSlashes s
  obtain ⟨m, hm⟩ := exists_eq_withoutEndSlashes (unifySeparators (withoutEndSlashes s))
  refine ⟨m, hm.trans ?_⟩
  conv_rhs => rw [hn, unifySeparators_append, unifySeparators_replicate]
  rw [withoutEndSlashes_append_replicate]

/-- What lies in a directory as it is written lies in it with slashes for backslashes. -/
theorem isWithin_unified {pattern path : String} (h : isWithin pattern path = true) :
    isWithin (unified pattern) (unified path) = true := by
  obtain ⟨n, hn⟩ := exists_unifySeparators_withoutEndSlashes pattern.toList
  rw [isWithin_iff, toList_unified, toList_unified]
  rcases (isWithin_iff pattern path).1 h with hpath | ⟨rest, hpath⟩
  · rw [hpath, hn]
    cases n with
    | zero => exact .inl (List.append_nil _)
    | succ n => exact .inr ⟨List.replicate n '/', rfl⟩
  · rw [hpath, unifySeparators_append, hn]
    refine .inr ⟨List.replicate n '/' ++ unifySeparators rest, ?_⟩
    rw [List.append_assoc]
    refine congrArg _ ?_
    show List.replicate n '/' ++ ('/' :: unifySeparators rest) = _
    rw [← List.cons_append, ← List.replicate_succ, List.replicate_succ', List.append_assoc]
    rfl

/-! ### A path for every name of a directory -/

/-- A path deep in the directory that a pattern names, which goes on behind the name with a
separator. -/
def deepPath (pattern : String) (separator : Char) (depth : Nat) : String :=
  String.ofList (withoutEndSlashes (unifySeparators pattern.toList) ++
    separator :: 'x' :: List.replicate depth '/')

section
variable {pattern : String} {separator : Char} {depth : Nat}

theorem toList_unified_deepPath (h : separator = '/' ∨ separator = '\\') :
    (unified (deepPath pattern separator depth)).toList =
      withoutEndSlashes (unifySeparators pattern.toList) ++
        '/' :: 'x' :: List.replicate depth '/' := by
  have hseparator : unifySeparators [separator] = ['/'] := by
    obtain rfl | rfl := h <;> rfl
  rw [toList_unified, deepPath, String.toList_ofList, unifySeparators_append,
    unifySeparators_of_notMem (backslash_notMem_withoutEndSlashes _)]
  refine congrArg _ ?_
  show unifySeparators ([separator] ++ (['x'] ++ List.replicate depth '/')) = _
  rw [unifySeparators_append, unifySeparators_append, hseparator, unifySeparators_replicate]
  rfl

theorem isWithin_deepPath (h : separator = '/' ∨ separator = '\\') :
    isWithin (unified pattern) (unified (deepPath pattern separator depth)) = true := by
  rw [isWithin_iff, toList_unified_deepPath h, toList_unified]
  exact .inr ⟨_, rfl⟩

/-- A deep path lies in a directory as it is written only if the name has no backslashes and a slash
follows it. -/
theorem of_isWithin_deepPath (h : separator = '/' ∨ separator = '\\')
    (hin : isWithin pattern (deepPath pattern separator depth) = true) :
    separator = '/' ∧ '\\' ∉ pattern.toList := by
  obtain ⟨n, hn⟩ := exists_unifySeparators_withoutEndSlashes pattern.toList
  have hunified : (unified (deepPath pattern separator depth)).toList = _ :=
    toList_unified_deepPath h
  rw [toList_unified] at hunified
  rcases (isWithin_iff _ _).1 hin with hpath | ⟨rest, hpath⟩
  · rw [hpath, hn, List.append_cancel_left_eq] at hunified
    have hx : 'x' ∈ List.replicate n '/' := hunified ▸ List.mem_cons_of_mem _ List.mem_cons_self
    exact absurd (List.eq_of_mem_replicate hx) (by decide)
  · rw [hpath, unifySeparators_append, hn, List.append_assoc,
      List.append_cancel_left_eq] at hunified
    -- The name has as many characters as with slashes, so that both end at the separator.
    have hzero : n = 0 := by
      cases n with
      | zero => rfl
      | succ n =>
        cases n with
        | zero => exact absurd (List.cons.inj (List.cons.inj hunified).2).1 (by decide)
        | succ n => exact absurd (List.cons.inj (List.cons.inj hunified).2).1 (by decide)
    rw [hzero, List.replicate_zero, List.append_nil] at hn
    have hlength := congrArg List.length hn
    rw [unifySeparators, List.length_map] at hlength
    rw [deepPath, String.toList_ofList] at hpath
    obtain ⟨hname, hrest⟩ := List.append_inj hpath hlength.symm
    refine ⟨(List.cons.inj hrest).1, fun hmem => ?_⟩
    obtain ⟨m, hm⟩ := exists_eq_withoutEndSlashes pattern.toList
    rw [hm, ← hname] at hmem
    rcases List.mem_append.1 hmem with hmem | hmem
    · rw [← hn] at hmem
      exact backslash_notMem_unifySeparators _ hmem
    · exact absurd (List.eq_of_mem_replicate hmem) (by decide)

end

section
variable [StandIns]

/-! ### One rule and the other -/

theorem pathnameAccepts_unified (pattern path : String) :
    pathnameAccepts (unified pattern) (unified path) = pathnameAccepts pattern path := by
  rw [pathnameAccepts, pathnameAccepts, Pathname.accepts, Pathname.accepts, compile, compile,
    toList_unified, toList_unified, unifySeparators_unifySeparators,
    unifySeparators_unifySeparators]

theorem exists_pathnameAccepts {pattern : String} (h : Compiles pattern) (path : String) :
    ∃ taken, pathnameAccepts pattern path = .ok taken := by
  obtain ⟨compiled, hcompiled⟩ := h
  rw [pathnameAccepts, Pathname.accepts, hcompiled]
  exact ⟨_, rfl⟩

/-- What a pattern that can be read leaves out: what lies in the directory that it names, and what
it takes as a path pattern, unless it ends in a slash. -/
theorem excludes_eq_ok_true_iff {pattern path : String} {taken : Bool}
    (h : pathnameAccepts pattern path = .ok taken) :
    excludes pattern path = .ok true ↔
      NamesDirectory pattern ∧ isWithin pattern path = true ∨
        ¬EndsIn '/' pattern ∧ taken = true := by
  rw [excludes, NamesDirectory, ← maybeDirectory_iff, h]
  by_cases hlast : EndsIn '/' pattern
  · have hslash : pattern.toList.getLast? = some '/' := hlast
    simp [hslash, hlast]
  · have hslash : pattern.toList.getLast? ≠ some '/' := hlast
    rw [if_neg hslash]
    by_cases hdir : (maybeDirectory pattern && isWithin pattern path) = true
    · simp_all
    · rw [if_neg hdir]
      simp_all

/-- Whether a path is left out by a pattern only with slashes for backslashes, or only without. -/
inductive Misread (pattern path : String) : Prop where
  /-- The path lies in the directory that the pattern names, but not as they are written. -/
  | missed (hnames : NamesDirectory (unified pattern))
      (hin : isWithin (unified pattern) (unified path) = true)
      (hwritten : ¬(NamesDirectory pattern ∧ isWithin pattern path = true))
      (htaken : EndsIn '/' pattern ∨ pathnameAccepts pattern path = .ok false)
  /-- The pattern takes a path that does not lie in the directory that the pattern names. -/
  | taken (hlast : EndsIn '\\' pattern)
      (hout : isWithin (unified pattern) (unified path) = false)
      (htaken : pathnameAccepts pattern path = .ok true)

theorem compiles_unified {pattern : String} (h : Compiles pattern) :
    Compiles (unified pattern) := by
  obtain ⟨compiled, hcompiled⟩ := h
  refine ⟨compiled, ?_⟩
  rw [compile, toList_unified, unifySeparators_unifySeparators]
  exact hcompiled

theorem misread_iff {pattern path : String} {taken : Bool}
    (h : pathnameAccepts pattern path = .ok taken) :
    Misread pattern path ↔
      (NamesDirectory (unified pattern) ∧ isWithin (unified pattern) (unified path) = true) ∧
          ¬(NamesDirectory pattern ∧ isWithin pattern path = true) ∧
          (EndsIn '/' pattern ∨ taken = false) ∨
        EndsIn '\\' pattern ∧ isWithin (unified pattern) (unified path) = false ∧ taken = true := by
  constructor
  · intro hmisread
    cases hmisread with
    | missed hnames hin hwritten htaken =>
      refine .inl ⟨⟨hnames, hin⟩, hwritten, htaken.imp_right fun hfalse => ?_⟩
      exact Except.ok.inj (h.symm.trans hfalse)
    | taken hlast hout htaken => exact .inr ⟨hlast, hout, Except.ok.inj (h.symm.trans htaken)⟩
  · intro hcases
    rcases hcases with ⟨⟨hnames, hin⟩, hwritten, htaken⟩ | ⟨hlast, hout, htaken⟩
    · refine .missed hnames hin hwritten (htaken.imp_right fun hfalse => ?_)
      rw [h, hfalse]
    · rw [htaken] at h
      exact .taken hlast hout h

theorem excludes_unified_eq_iff {pattern : String} (h : Compiles pattern) (path : String) :
    excludes pattern path = excludes (unified pattern) (unified path) ↔ ¬Misread pattern path := by
  obtain ⟨taken, htaken⟩ := exists_pathnameAccepts h path
  obtain ⟨out, hout⟩ := excludes_of_compiles h path
  obtain ⟨out', hout'⟩ := excludes_of_compiles (compiles_unified h) (unified path)
  have hiff := excludes_eq_ok_true_iff htaken
  have hiff' := excludes_eq_ok_true_iff ((pathnameAccepts_unified pattern path).trans htaken)
  rw [hout, Except.ok.injEq] at hiff
  rw [hout', Except.ok.injEq, endsIn_unified_iff] at hiff'
  have hmono : NamesDirectory pattern ∧ isWithin pattern path = true →
      NamesDirectory (unified pattern) ∧ isWithin (unified pattern) (unified path) = true :=
    fun hdir => ⟨hdir.1.unified, isWithin_unified hdir.2⟩
  have hnames : EndsIn '\\' pattern → NamesDirectory (unified pattern) :=
    fun hback => .inl ((endsIn_unified_iff pattern).2 (.inr hback))
  have hends : EndsIn '\\' pattern → ¬EndsIn '/' pattern :=
    fun hback hslash => absurd (hback.symm.trans hslash) (by decide)
  rw [hout, hout', Except.ok.injEq, Bool.eq_iff_iff, hiff, hiff', misread_iff htaken,
    ← Bool.not_eq_true, ← Bool.not_eq_true]
  grind

/-! ### When there is such a path -/

variable {pattern : String} {separator : Char} {depth : Nat}

/-- Path patterns in which no negated set closes itself take no path that is deep enough. -/
theorem pathnameAccepts_deepPath (hcompiles : Compiles pattern)
    (hwhole : ∀ p ∈ parts (unifySeparators pattern.toList), p.isCutShort = false)
    (h : separator = '/' ∨ separator = '\\')
    (hdepth : (Pathname.singles (parts (unifySeparators pattern.toList))).length ≤ depth) :
    pathnameAccepts pattern (deepPath pattern separator depth) = .ok false := by
  obtain ⟨compiled, hcompiled⟩ := hcompiles
  have hanswer (path : String) : accepts pattern path =
      .ok (compiled.takes (unifySeparators path.toList)) := by
    rw [accepts, hcompiled]
    rfl
  have hreadable := isReadable_of_accepts hwhole (hanswer "")
  obtain ⟨out, hout, htakes⟩ := exists_accepts hwhole hreadable (deepPath pattern separator depth)
  have hfalse : out = false := by
    rw [Bool.eq_false_iff]
    intro htrue
    have hcount := (htakes.1 htrue).count_slash_le
    rw [← toList_unified, toList_unified_deepPath h, List.count_append, List.count_cons_self,
      List.count_cons_of_ne (by decide), List.count_replicate_self] at hcount
    omega
  rw [pathnameAccepts, hout, hfalse]
  rfl

/-- With slashes a deep path is left out by a pattern that then names a directory. As they are
written it is left out only if both have slashes already. -/
theorem misread_deepPath (hcompiles : Compiles pattern)
    (hwhole : ∀ p ∈ parts (unifySeparators pattern.toList), p.isCutShort = false)
    (hnames : NamesDirectory (unified pattern)) (h : separator = '/' ∨ separator = '\\')
    (hback : separator = '\\' ∨ '\\' ∈ pattern.toList) :
    ∃ depth, Misread pattern (deepPath pattern separator depth) := by
  refine ⟨_, .missed hnames (isWithin_deepPath h) (fun hwritten => ?_)
    (.inr (pathnameAccepts_deepPath hcompiles hwhole h (Nat.le_refl _)))⟩
  obtain ⟨hslash, hplain⟩ := of_isWithin_deepPath h hwritten.2
  rcases hback with rfl | hmem
  · exact absurd hslash (by decide)
  · exact hplain hmem

/-- **Separators.** A pattern that can be read leaves out a path as it does with slashes for the
backslashes of both, except for the paths that are `Misread`. If no negated set in it closes itself,
there are none exactly if the pattern with slashes does not name a directory, and none without
backslashes exactly if it does not or has no backslashes itself. -/
theorem excludes_unified_iff {pattern : String} (h : Compiles pattern) :
    (∀ path, excludes pattern path = excludes (unified pattern) (unified path) ↔
        ¬Misread pattern path) ∧
      ((∀ p ∈ parts (unifySeparators pattern.toList), p.isCutShort = false) →
        ((∀ path, excludes pattern path = excludes (unified pattern) (unified path)) ↔
            ¬NamesDirectory (unified pattern)) ∧
          ((∀ path : String, '\\' ∉ path.toList →
              excludes pattern path = excludes (unified pattern) (unified path)) ↔
            ¬NamesDirectory (unified pattern) ∨ '\\' ∉ pattern.toList)) := by
  have hpath := excludes_unified_eq_iff h
  have hnone : ¬NamesDirectory (unified pattern) → ∀ path,
      excludes pattern path = excludes (unified pattern) (unified path) := by
    intro hnames path
    refine (hpath path).2 fun hmisread => ?_
    cases hmisread with
    | missed hdir _ _ _ => exact hnames hdir
    | taken hlast _ _ => exact hnames (.inl ((endsIn_unified_iff pattern).2 (.inr hlast)))
  refine ⟨hpath, fun hwhole => ⟨⟨fun hall hnames => ?_, hnone⟩, fun hall => ?_, ?_⟩⟩
  · obtain ⟨depth, hmisread⟩ := misread_deepPath h hwhole hnames (.inr rfl) (.inl rfl)
    exact (hpath _).1 (hall _) hmisread
  · by_contra hneither
    rw [not_or, not_not, not_not] at hneither
    obtain ⟨hnames, hback⟩ := hneither
    obtain ⟨depth, hmisread⟩ := misread_deepPath h hwhole hnames (.inl rfl) (.inr hback)
    refine (hpath _).1 (hall _ fun hmem => ?_) hmisread
    rw [deepPath, String.toList_ofList] at hmem
    rcases List.mem_append.1 hmem with hmem | hmem
    · exact backslash_notMem_withoutEndSlashes _ hmem
    · simp at hmem
  · rintro (hnames | hplain) path hpathPlain
    · exact hnone hnames path
    · rw [unified_of_notMem hplain, unified_of_notMem hpathPlain]

end

/-- The pieces of a pattern for `src/gen`. -/
def srcGenPieces : List Piece :=
  [.char 's', .char 'r', .char 'c', .char '/', .char 'g', .char 'e', .char 'n']

theorem compile_srcGen [StandIns] : Pathname.compile "src\\gen" = .ok (.pieces srcGenPieces) := by
  have hparts : parts (unifySeparators "src\\gen".toList) =
      [.char 's', .char 'r', .char 'c', .char '/', .char 'g', .char 'e', .char 'n'] := by
    rw [show unifySeparators "src\\gen".toList = ['s', 'r', 'c', '/', 'g', 'e', 'n'] by decide]
    simp [parts]
  rw [Pathname.compile, hparts]
  rfl

/-- What lies in `src/gen` is left out by that name, but not by `src\gen`. -/
theorem excludes_unified_iff_srcGen :
    letI : StandIns := ⟨.besides []⟩
    Compiles "src\\gen" ∧ excludes "src\\gen" "src/gen/a.py" = .ok false ∧
      excludes (unified "src\\gen") (unified "src/gen/a.py") = .ok true ∧
      Misread "src\\gen" "src/gen/a.py" := by
  let _ : StandIns := ⟨.besides []⟩
  have hwritten : excludes "src\\gen" "src/gen/a.py" = .ok false := by
    have hdir : ¬(maybeDirectory "src\\gen" && isWithin "src\\gen" "src/gen/a.py") = true := by
      decide
    rw [excludes, if_neg (by decide), if_neg hdir, pathnameAccepts, accepts, compile_srcGen]
    rfl
  have hunified : excludes (unified "src\\gen") (unified "src/gen/a.py") = .ok true := by
    have hdir : (maybeDirectory (unified "src\\gen") &&
        isWithin (unified "src\\gen") (unified "src/gen/a.py")) = true := by decide
    rw [excludes, if_neg (by decide), if_pos hdir]
  refine ⟨⟨_, compile_srcGen⟩, hwritten, hunified, ?_⟩
  by_contra hnot
  have hsame := ((excludes_unified_iff ⟨_, compile_srcGen⟩).1 "src/gen/a.py").2 hnot
  rw [hwritten, hunified] at hsame
  exact Bool.false_ne_true (Except.ok.inj hsame)

end PatchReview.Diff
