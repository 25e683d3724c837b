import Mathlib.Data.List.Forall2
import PatchReview.Json.Writer
import PatchReview.Proofs.Json.Reading

/-! Reading back what was written.

A text that was written for a value is read as that value, whatever stands behind it that is no
more of a number (`ReadsBack`). That holds of texts, of integers that can be written, and of lists
and tables of what is read back; so it holds of all values that JSON keeps as they are (`Exact`),
in every layout that neither sorts keys nor escapes what is not ASCII. -/
namespace PatchReview.Json

open Text

/-! ### Space -/

theorem skipSpace_append {w : List Char} (h : ∀ c ∈ w, isSpace c = true) (s : List Char) :
    skipSpace (w ++ s) = skipSpace s := List.dropWhile_append_of_pos h

theorem skipSpace_cons {c : Char} (h : isSpace c = false) (s : List Char) :
    skipSpace (c :: s) = c :: s := List.dropWhile_cons_of_neg (by simpa [isSpace] using h)

/-- What stands in front of a text is passed, or it has something that is no space. -/
theorem skipSpace_append_cases (front back : List Char) :
    (skipSpace front = [] ∧ skipSpace (front ++ back) = skipSpace back) ∨
      ∃ c rest, skipSpace front = c :: rest ∧ skipSpace (front ++ back) = c :: (rest ++ back) := by
  simp only [skipSpace, List.dropWhile_append]
  split
  · rename_i hempty
    exact .inl ⟨List.isEmpty_iff.1 hempty, rfl⟩
  · rename_i hne
    obtain ⟨c, rest, hrest⟩ := List.exists_cons_of_ne_nil fun hnil => hne (List.isEmpty_iff.2 hnil)
    exact .inr ⟨c, rest, hrest, by rw [hrest, List.cons_append]⟩

theorem isSpace_of_mem_breakTo {layout : Layout} {level : Nat} {c : Char}
    (h : c ∈ breakTo layout level) : isSpace c = true := by
  unfold breakTo at h
  split at h
  · exact absurd h List.not_mem_nil
  · rcases List.mem_cons.1 h with rfl | h
    · decide
    · rw [List.eq_of_mem_replicate h]
      decide

/-- Between two items there are a comma and space. -/
theorem exists_separator (layout : Layout) (level : Nat) :
    ∃ gap, separator layout level = ',' :: gap ∧ ∀ c ∈ gap, isSpace c = true := by
  unfold separator
  split
  · exact ⟨[' '], rfl, List.forall_mem_singleton.2 (by decide)⟩
  · exact ⟨_, rfl, fun _ => isSpace_of_mem_breakTo⟩

/-- Items stand between their brackets with space around. -/
theorem exists_enclose (layout : Layout) (level : Nat) (first last : Char) (w : List Char)
    (ws : List (List Char)) :
    ∃ front gap back, enclose layout level first last (w :: ws) =
        first :: (front ++ ((',' :: gap).intercalate (w :: ws) ++ (back ++ [last]))) ∧
      (∀ c ∈ front, isSpace c = true) ∧ (∀ c ∈ gap, isSpace c = true) ∧
      ∀ c ∈ back, isSpace c = true := by
  obtain ⟨gap, hseparator, hgap⟩ := exists_separator layout (level + 1)
  refine ⟨breakTo layout (level + 1), gap, breakTo layout level, ?_,
    fun _ => isSpace_of_mem_breakTo, hgap, fun _ => isSpace_of_mem_breakTo⟩
  simp [enclose, hseparator]

/-! ### Texts -/

/-- Controls are spelled by their numbers. -/
theorem readUnits_unicodeEscape {n : Nat} (h : n < 32) (s : List Char) :
    readUnits (unicodeEscape n ++ s) =
      (readUnits s).map fun (units, rest) => (n :: units, rest) := by
  have hfour : ∀ n < 32, fourHex? (hexDigit (n / 16 / 16 / 16 % 16)) (hexDigit (n / 16 / 16 % 16))
      (hexDigit (n / 16 % 16)) (hexDigit (n % 16)) = some n := by decide
  show readUnits ('\\' :: 'u' :: hexDigit (n / 16 / 16 / 16 % 16) :: hexDigit (n / 16 / 16 % 16) ::
    hexDigit (n / 16 % 16) :: hexDigit (n % 16) :: s) = _
  rw [readUnits, hfour n h]

section
variable [StandIns]

/-- Characters are never joined: only halves are. -/
theorem joinUnits_map_toNat (s : List Char) : joinUnits (s.map Char.toNat) = s := by
  have hcode (c : Char) : Surrogate.ofCode c.toNat = c := by
    rw [Surrogate.ofCode, Surrogate.isHalf_toNat, if_neg Bool.false_ne_true, Char.ofNat_toNat]
  induction s with
  | nil => rfl
  | cons c s ih =>
    cases s with
    | nil => exact congrArg ([·]) (hcode c)
    | cons d s =>
      have hjoined : Surrogate.joined? c.toNat d.toNat = none := by
        rw [Surrogate.joined?, Surrogate.isHigh, Surrogate.isHalf_toNat]
        rfl
      rw [List.map_cons] at ih
      rw [List.map_cons, List.map_cons, joinUnits, hjoined]
      simp only [hcode, ih]

/-- A character that stands for no half is its own number, and one that does is far from ASCII. -/
theorem code_eq_or (c : Char) :
    Surrogate.code c = c.toNat ∨ 0xD800 ≤ Surrogate.code c ∧ 0xD800 ≤ c.toNat := by
  unfold Surrogate.code Surrogate.half?
  split
  · exact .inl rfl
  · rename_i hstart
    cases hidx : StandIns.spares.chars.idxOf? c with
    | none => exact .inl rfl
    | some i =>
      have hspare : Spares.start ≤ c.toNat := Nat.not_lt.1 hstart
      refine .inr ⟨Nat.le_add_right _ i, Nat.le_trans ?_ hspare⟩
      decide

/-- Behind a written character a text is read as behind the character. -/
theorem readUnits_escapeChar (c : Char) (s : List Char) :
    readUnits (escapeChar false c ++ s) =
      (readUnits s).map fun (units, rest) => (c.toNat :: units, rest) := by
  have hnumber {n : Nat} (hn : n < 0xD800) (h : Surrogate.code c = n) : c.toNat = n := by
    rcases code_eq_or c with hc | hc
    · exact hc.symm.trans h
    · exact absurd hn (Nat.not_lt.2 (h ▸ hc.1))
  unfold escapeChar
  simp only [Bool.false_and, Bool.false_eq_true, if_false, beq_iff_eq]
  split_ifs with hquote hback hnewline hreturn htab hb hf hcontrol
  · rw [hquote]; rfl
  · rw [hback]; rfl
  · rw [hnewline]; rfl
  · rw [hreturn]; rfl
  · rw [htab]; rfl
  · rw [hnumber (by decide) hb]; rfl
  · rw [hnumber (by decide) hf]; rfl
  · rw [hnumber (Nat.lt_trans hcontrol (by decide)) rfl]
    exact readUnits_unicodeEscape hcontrol s
  · have hlow : ¬c.toNat < 32 := by
      rcases code_eq_or c with hc | hc
      · rwa [← hc]
      · omega
    rw [List.singleton_append, readUnits.eq_def]
    split
    · rename_i h
      exact absurd h (List.cons_ne_nil c s)
    · rename_i h
      exact absurd (List.cons.inj h).1 hquote
    · rename_i h
      exact absurd (List.cons.inj h).1 hback
    · rename_i h
      exact absurd (List.cons.inj h).1 hback
    · rename_i h
      obtain ⟨rfl, rfl⟩ := List.cons.inj h
      rw [if_neg (by simp [hlow, hback])]

theorem readText_writeText (s : String) (rest : List Char) :
    readText ((s.toList.flatMap (escapeChar false)) ++ '"' :: rest) = .ok (s, rest) := by
  have hunits (s : List Char) :
      readUnits (s.flatMap (escapeChar false) ++ '"' :: rest) = .ok (s.map Char.toNat, rest) := by
    induction s with
    | nil => rfl
    | cons c s ih => rw [List.flatMap_cons, List.append_assoc, readUnits_escapeChar, ih]; rfl
  rw [readText, hunits]
  simp only [Except.map, joinUnits_map_toNat, String.ofList_toList]

end

/-! ### Integers -/

/-- A rest that is no more of a number. -/
def Stops (rest : List Char) : Prop := ∀ c ∈ rest.head?, isNumberChar c = false

theorem Stops.nil : Stops [] := fun _ hc => absurd hc (Option.not_mem_none _)

theorem Stops.cons {c : Char} (h : isNumberChar c = false) (s : List Char) : Stops (c :: s) := by
  intro d hd
  rwa [← Option.some.inj hd]

/-- Numbers are written without space. -/
theorem isNumberChar_of_isSpace {c : Char} (h : isSpace c = true) : isNumberChar c = false := by
  simp only [isSpace, Bool.or_eq_true, beq_iff_eq] at h
  rcases h with ((rfl | rfl) | rfl) | rfl <;> decide

theorem Stops.behindSpace {w : List Char} (hw : ∀ c ∈ w, isSpace c = true) {s : List Char}
    (hs : Stops s) : Stops (w ++ s) := by
  cases w with
  | nil => exact hs
  | cons c w => exact .cons (isNumberChar_of_isSpace (hw c List.mem_cons_self)) _

theorem takeDigits_append {digits rest : List Char} (h : ∀ c ∈ digits, c.isDigit = true)
    (hrest : Stops rest) : takeDigits (digits ++ rest) = (digits, rest) := by
  have hstop : rest.takeWhile Char.isDigit = [] ∧ rest.dropWhile Char.isDigit = rest := by
    cases rest with
    | nil => exact ⟨rfl, rfl⟩
    | cons c rest =>
      have hc : ¬c.isDigit = true := fun hd =>
        absurd (isNumberChar_of_isDigit hd) (by simp [hrest c rfl])
      exact ⟨List.takeWhile_cons_of_neg hc, List.dropWhile_cons_of_neg hc⟩
  rw [takeDigits, List.span_eq_takeWhile_dropWhile, List.takeWhile_append_of_pos h,
    List.dropWhile_append_of_pos h, hstop.1, hstop.2, List.append_nil]

/-- Only zero is written with a zero in front. -/
theorem head?_toDigits_ne {n : Nat} (h : 0 < n) : (Nat.toDigits 10 n).head? ≠ some '0' := by
  induction n using Nat.strongRecOn with
  | ind n ih =>
    rcases Nat.lt_or_ge n 10 with hlt | hge
    · have hdigit : ∀ d < 10, 0 < d → [Nat.digitChar d].head? ≠ some '0' := by decide
      rw [Nat.toDigits_of_lt_base hlt]
      exact hdigit n hlt h
    · rw [Nat.toDigits_of_base_le (by decide) hge,
        List.head?_append_of_ne_nil _ Nat.toDigits_ne_nil]
      exact ih (n / 10) (by omega) (by omega)

theorem takeWhole_toDigits (n : Nat) {rest : List Char} (hrest : Stops rest) :
    takeWhole (Nat.toDigits 10 n ++ rest) = (Nat.toDigits 10 n, rest) := by
  rcases Nat.eq_zero_or_pos n with rfl | hpos
  · rw [Nat.toDigits_zero]
    rfl
  · have hdigits : ∀ c ∈ Nat.toDigits 10 n, c.isDigit = true := fun _ hc =>
      Nat.isDigit_of_mem_toDigits (by decide) (by decide) hc
    unfold takeWhole
    split
    · rename_i s hs
      have hhead := head?_toDigits_ne hpos
      rw [← List.head?_append_of_ne_nil _ Nat.toDigits_ne_nil, hs] at hhead
      exact absurd rfl hhead
    · exact takeDigits_append hdigits hrest

theorem takeFraction_of_stops {rest : List Char} (h : Stops rest) :
    takeFraction rest = ([], rest) := by
  unfold takeFraction
  split
  · exact absurd (h _ rfl) (by decide)
  · rfl

theorem takeExponent_of_stops {rest : List Char} (h : Stops rest) :
    takeExponent rest = (none, rest) := by
  unfold takeExponent
  split
  · rename_i e rest
    split
    · rename_i he
      have hletter : isNumberChar e = true := by
        simp only [Bool.or_eq_true, beq_iff_eq] at he
        rcases he with rfl | rfl <;> decide
      exact absurd hletter (by simp [h e rfl])
    · rfl
  · rfl

theorem readNatural_toDigits {n : Nat} (h : isWritable n = true) :
    readNatural (Nat.toDigits 10 n) = .ok n := by
  -- With the limit itself in place of `limit`, the power would be computed.
  have hlength (limit : Nat) (hpos : 0 < limit) (hlt : n < Nat.pow 10 limit) :
      (Nat.toDigits 10 n).length ≤ limit := (Nat.length_toDigits_le_iff (by decide) hpos).2 hlt
  rw [isWritable, decide_eq_true_eq, Int.natAbs_natCast] at h
  have hle := hlength digitLimit (by decide) h
  rw [readNatural, readNaturalWithin, if_neg (by simpa using hle), digitsValue_toDigits]

theorem readNumber_toDigits (negative : Bool) {n : Nat} (h : isWritable n = true)
    {rest : List Char} (hrest : Stops rest) :
    readNumber negative (Nat.toDigits 10 n ++ rest) =
      .ok (.int (if negative then -(n : Int) else n), rest) := by
  rw [readNumber, takeWhole_toDigits n hrest]
  split
  · rename_i hnil
    exact absurd (Prod.mk.inj hnil).1 Nat.toDigits_ne_nil
  · rename_i hpair
    obtain ⟨rfl, rfl⟩ := Prod.mk.inj hpair
    rw [takeFraction_of_stops hrest]
    dsimp only
    rw [takeExponent_of_stops hrest]
    rw [if_pos (by rfl), readNatural_toDigits h]

/-- What starts with a digit, or with a sign and a digit, is no name: names have no digits. -/
theorem findSome?_names (sign : List Char) (hsign : sign.length ≤ 1) {c : Char}
    (hc : c.isDigit = true) (s : List Char) :
    (names.findSome? fun (name, v) => (afterName? name (sign ++ c :: s)).map (v, ·)) = none := by
  have hnames : ∀ name ∈ names.map (·.1),
      1 < name.toList.length ∧ name.toList.any Char.isDigit = false := by decide
  refine List.findSome?_eq_none_iff.2 fun entry hentry => ?_
  obtain ⟨hlength, hdigits⟩ := hnames entry.1 (List.mem_map_of_mem hentry)
  refine Option.map_eq_none_iff.2 (if_neg fun hstarts => ?_)
  obtain ⟨t, ht⟩ := List.isPrefixOf_iff_prefix.1 hstarts
  rcases List.append_eq_append_iff.1 ht with ⟨u, hu, -⟩ | ⟨u, hu, hcs⟩
  · have hle := congrArg List.length hu
    rw [List.length_append] at hle
    omega
  · cases u with
    | nil =>
      rw [List.append_nil] at hu
      rw [hu] at hlength
      omega
    | cons d u =>
      obtain ⟨rfl, -⟩ := List.cons.inj hcs
      exact List.any_eq_false.1 hdigits c (hu ▸ List.mem_append_right _ List.mem_cons_self) hc

/-- An integer that can be written is read back. -/
theorem readScalar_int {i : Int} (h : isWritable i = true) {rest : List Char}
    (hrest : Stops rest) : readScalar (i.repr.toList ++ rest) = .ok (.int i, rest) := by
  have hnat : isWritable i.natAbs = true := h
  obtain ⟨d, digits, hd⟩ :=
    List.exists_cons_of_ne_nil (Nat.toDigits_ne_nil (b := 10) (n := i.natAbs))
  have hdigit : d.isDigit = true :=
    Nat.isDigit_of_mem_toDigits (by decide) (by decide) (hd ▸ List.mem_cons_self)
  have hnumber (negative : Bool) := readNumber_toDigits negative hnat hrest
  rw [hd, List.cons_append] at hnumber
  rw [toList_intRepr, hd, List.append_assoc, List.cons_append]
  split
  · rename_i hi
    have hnone := findSome?_names [] (by decide) hdigit (digits ++ rest)
    unfold readScalar
    rw [hnone]
    dsimp only [List.nil_append]
    split
    · rename_i hsign
      rw [(List.cons.inj hsign).1] at hdigit
      exact absurd hdigit (by decide)
    · rw [hnumber, if_neg Bool.false_ne_true, Int.natAbs_of_nonneg hi]
  · rename_i hi
    have hnone := findSome?_names ['-'] (by decide) hdigit (digits ++ rest)
    unfold readScalar
    rw [hnone]
    show readNumber true (d :: (digits ++ rest)) = _
    rw [hnumber, if_pos rfl, show -(i.natAbs : Int) = i by omega]

/-! ### Lists and tables -/

theorem exists_intercalate_cons (sep w : List Char) (ws : List (List Char)) :
    ∃ t, sep.intercalate (w :: ws) = w ++ t := by
  cases ws with
  | nil => exact ⟨[], by rw [List.intercalate_singleton, List.append_nil]⟩
  | cons w' ws => exact ⟨_, by rw [List.intercalate_cons_cons, List.append_assoc]⟩

section
variable [StandIns] {depth : Nat}

/-- A text that is read as a value by every reader that has enough room and depth, whatever comes
behind it, unless that is more of a number. -/
structure ReadsBack (depth : Nat) (w : List Char) (v : Value) : Prop where
  head : ∃ c t, w = c :: t ∧ isSpace c = false ∧ c ≠ ']'
  read : ∀ {bound : Nat}, w.length ≤ bound → ∀ {rest : List Char}, (∀ i, v = .int i → Stops rest) →
    readValue bound depth (w ++ rest) = .ok (v, rest)

theorem ReadsBack.skipSpace_eq {w : List Char} {v : Value} (h : ReadsBack depth w v)
    (rest : List Char) : skipSpace (w ++ rest) = w ++ rest := by
  obtain ⟨c, t, rfl, hc, -⟩ := h.head
  exact skipSpace_cons hc _

/-- Numbers and names. -/
theorem ReadsBack.of_scalar {c : Char} (hc : isSpace c = false ∧ c ≠ ']' ∧ c ≠ '"' ∧ opens c = false)
    {t : List Char} {v : Value}
    (h : ∀ {rest}, (∀ i, v = .int i → Stops rest) → readScalar (c :: t ++ rest) = .ok (v, rest)) :
    ReadsBack depth (c :: t) v where
  head := ⟨c, t, rfl, hc.1, hc.2.1⟩
  read := by
    intro bound hbound rest hrest
    obtain ⟨bound, rfl⟩ := Nat.exists_eq_add_one_of_ne_zero (Nat.ne_zero_of_lt hbound)
    rw [List.cons_append, readValue.eq_def]
    dsimp only
    split
    · rename_i hs
      exact absurd (List.cons.inj hs).1 hc.2.2.1
    · rename_i hs
      rw [(List.cons.inj hs).1] at hc
      exact absurd hc.2.2.2 (by decide)
    · rename_i hs
      rw [(List.cons.inj hs).1] at hc
      exact absurd hc.2.2.2 (by decide)
    · exact h hrest

theorem ReadsBack.int {i : Int} (h : isWritable i = true) :
    ReadsBack depth i.repr.toList (.int i) := by
  have hne : i.repr.toList ≠ [] := by
    rw [toList_intRepr]
    exact List.append_ne_nil_of_right_ne_nil _ Nat.toDigits_ne_nil
  obtain ⟨c, t, hw⟩ := List.exists_cons_of_ne_nil hne
  have hc : isNumberChar c = true := by
    rcases isDigit_of_mem_intRepr (hw ▸ List.mem_cons_self) with rfl | hdigit
    · decide
    · exact isNumberChar_of_isDigit hdigit
  rw [hw]
  have hspace : isSpace c = false := by
    rw [Bool.eq_false_iff]
    intro hspace
    exact absurd hc (by simp [isNumberChar_of_isSpace hspace])
  refine .of_scalar ⟨hspace, ?_, ?_, ?_⟩ fun hrest => hw ▸ readScalar_int h (hrest i rfl)
  · rintro rfl
    exact absurd hc (by decide)
  · rintro rfl
    exact absurd hc (by decide)
  · rw [Bool.eq_false_iff]
    intro hopens
    simp only [opens, Bool.or_eq_true, beq_iff_eq] at hopens
    rcases hopens with rfl | rfl <;> exact absurd hc (by decide)

theorem ReadsBack.text (s : String) : ReadsBack depth (writeText false s.toList) (.text s) where
  head := ⟨'"', _, rfl, by decide, by decide⟩
  read := by
    intro bound hbound rest _
    obtain ⟨bound, rfl⟩ := Nat.exists_eq_add_one_of_ne_zero (Nat.ne_zero_of_lt hbound)
    rw [writeText, List.cons_append, List.cons_append, List.append_assoc]
    show (readText (_ ++ '"' :: rest)).map _ = _
    rw [readText_writeText]
    rfl

/-- Items are read one after the other, up to the closing bracket. -/
theorem readItems_back {ws : List (List Char)} {vs : List Value}
    (h : List.Forall₂ (ReadsBack depth) ws vs) (hne : ws ≠ []) {gap back : List Char}
    (hgap : ∀ c ∈ gap, isSpace c = true) (hback : ∀ c ∈ back, isSpace c = true)
    (rest : List Char) {bound : Nat}
    (hbound : ((',' :: gap).intercalate ws).length + back.length < bound) :
    readItems bound depth ((',' :: gap).intercalate ws ++ (back ++ ']' :: rest)) =
      .ok (vs, rest) := by
  induction h generalizing bound with
  | nil => exact absurd rfl hne
  | @cons w v ws vs hw hws ih =>
    obtain ⟨bound, rfl⟩ := Nat.exists_eq_add_one_of_ne_zero (Nat.ne_zero_of_lt hbound)
    rw [readItems]
    cases hws with
    | nil =>
      rw [List.intercalate_singleton] at hbound ⊢
      rw [hw.read (by omega) fun _ _ => .behindSpace hback (.cons (by decide) _)]
      simp only [bind, Except.bind, skipSpace_append hback,
        skipSpace_cons (c := ']') (by decide)]
      rfl
    | @cons w' v' ws vs hw' hws =>
      rw [List.intercalate_cons_cons, List.length_append, List.length_append,
        List.length_cons] at hbound
      have hitems : readItems bound depth _ = _ := ih (List.cons_ne_nil _ _) (by omega)
      rw [List.intercalate_cons_cons, List.append_assoc, List.append_assoc, List.cons_append,
        hw.read (by omega) fun _ _ => .cons (by decide) _]
      simp only [bind, Except.bind, skipSpace_cons (c := ',') (by decide), skipSpace_append hgap]
      obtain ⟨t, ht⟩ := exists_intercalate_cons (',' :: gap) w' ws
      rw [ht, List.append_assoc, hw'.skipSpace_eq, ← List.append_assoc, ← ht, hitems]
      rfl

theorem ReadsBack.list (layout : Layout) (level : Nat) {ws : List (List Char)} {vs : List Value}
    (h : List.Forall₂ (ReadsBack depth) ws vs) :
    ReadsBack (depth + 1) (enclose layout level '[' ']' ws) (.list vs) := by
  cases h with
  | nil =>
    refine ⟨⟨'[', [']'], rfl, by decide, by decide⟩, fun {bound} hbound rest _ => ?_⟩
    obtain ⟨bound, rfl⟩ := Nat.exists_eq_add_one_of_ne_zero (Nat.ne_zero_of_lt hbound)
    rfl
  | @cons w v ws vs hw hws =>
    obtain ⟨front, gap, back, hform, hfront, hgap, hback⟩ := exists_enclose layout level '[' ']' w ws
    rw [hform]
    refine ⟨⟨'[', _, rfl, by decide, by decide⟩, fun {bound} hbound rest _ => ?_⟩
    obtain ⟨bound, rfl⟩ := Nat.exists_eq_add_one_of_ne_zero (Nat.ne_zero_of_lt hbound)
    simp only [List.length_cons, List.length_append] at hbound
    have hitems : readItems bound depth
        ((',' :: gap).intercalate (w :: ws) ++ (back ++ ']' :: rest)) = .ok (v :: vs, rest) :=
      readItems_back (.cons hw hws) (List.cons_ne_nil w ws) hgap hback rest (by omega)
    obtain ⟨t, ht⟩ := exists_intercalate_cons (',' :: gap) w ws
    obtain ⟨c, u, rfl, hspace, hbracket⟩ := hw.head
    rw [List.cons_append, List.append_assoc, List.append_assoc, List.append_assoc,
      List.singleton_append, readValue, skipSpace_append hfront]
    rw [ht, List.cons_append, List.cons_append] at hitems ⊢
    rw [skipSpace_cons hspace]
    split
    · rename_i hclosed
      exact absurd (List.cons.inj hclosed).1 hbracket
    · rw [hitems]
      rfl

/-- An entry of a table, with its key in quotes. -/
def ReadsBackEntry (depth : Nat) (w : List Char) (e : String × Value) : Prop :=
  ∃ u, w = writeText false e.1.toList ++ ':' :: ' ' :: u ∧ ReadsBack depth u e.2

theorem ReadsBackEntry.exists_quoted {w : List Char} {e : String × Value}
    (h : ReadsBackEntry depth w e) : ∃ t, w = '"' :: t := by
  obtain ⟨u, rfl, -⟩ := h
  exact ⟨_, rfl⟩

/-- Behind an entry the table ends, or another entry follows. -/
theorem ReadsBackEntry.read {w : List Char} {e : String × Value} (h : ReadsBackEntry depth w e)
    {bound : Nat} (hbound : w.length ≤ bound) {rest : List Char} (hrest : Stops rest) :
    (∀ rest', skipSpace rest = '\x7d' :: rest' →
      readEntries (bound + 1) depth (w ++ rest) = .ok ([e], rest')) ∧
    ∀ s entries rest', skipSpace rest = ',' :: s →
      readEntries bound depth (skipSpace s) = .ok (entries, rest') →
        readEntries (bound + 1) depth (w ++ rest) = .ok (e :: entries, rest') := by
  obtain ⟨u, rfl, hu⟩ := h
  have hlength : u.length ≤ bound := by
    rw [List.length_append, List.length_cons, List.length_cons] at hbound
    omega
  have hskip : skipSpace (' ' :: (u ++ rest)) = u ++ rest := hu.skipSpace_eq rest
  rw [writeText, List.cons_append, List.cons_append, List.cons_append, List.append_assoc,
    List.append_assoc, List.singleton_append, readEntries, List.cons_append, List.cons_append]
  simp only [bind, Except.bind, readText_writeText, skipSpace_cons (c := ':') (by decide), hskip,
    hu.read hlength fun _ _ => hrest]
  constructor
  · intro rest' hend
    rw [hend]
    rfl
  · intro s entries rest' hmore hentries
    simp only [hmore, hentries]
    rfl

theorem readEntries_back {ws : List (List Char)} {entries : List (String × Value)}
    (h : List.Forall₂ (ReadsBackEntry depth) ws entries) (hne : ws ≠ []) {gap back : List Char}
    (hgap : ∀ c ∈ gap, isSpace c = true) (hback : ∀ c ∈ back, isSpace c = true)
    (rest : List Char) {bound : Nat}
    (hbound : ((',' :: gap).intercalate ws).length + back.length < bound) :
    readEntries bound depth ((',' :: gap).intercalate ws ++ (back ++ '\x7d' :: rest)) =
      .ok (entries, rest) := by
  induction h generalizing bound with
  | nil => exact absurd rfl hne
  | @cons w e ws entries hw hws ih =>
    obtain ⟨bound, rfl⟩ := Nat.exists_eq_add_one_of_ne_zero (Nat.ne_zero_of_lt hbound)
    cases hws with
    | nil =>
      rw [List.intercalate_singleton] at hbound ⊢
      refine (hw.read (by omega) (.behindSpace hback (.cons (by decide) _))).1 rest ?_
      rw [skipSpace_append hback, skipSpace_cons (by decide)]
    | @cons w' e' ws entries hw' hws =>
      rw [List.intercalate_cons_cons, List.length_append, List.length_append,
        List.length_cons] at hbound
      have hentries : readEntries bound depth _ = _ := ih (List.cons_ne_nil _ _) (by omega)
      rw [List.intercalate_cons_cons, List.append_assoc, List.append_assoc, List.cons_append]
      refine (hw.read (by omega) (.cons (by decide) _)).2 _ _ _ (skipSpace_cons (by decide) _) ?_
      obtain ⟨t, ht⟩ := exists_intercalate_cons (',' :: gap) w' ws
      obtain ⟨q, rfl⟩ := hw'.exists_quoted
      rw [ht, List.cons_append, List.cons_append] at hentries
      rw [skipSpace_append hgap, ht, List.cons_append, List.cons_append,
        skipSpace_cons (by decide), hentries]

theorem ReadsBack.table (layout : Layout) (level : Nat) {ws : List (List Char)} {entries : Entries}
    (hn : (Keyed.keys entries).Nodup) (h : List.Forall₂ (ReadsBackEntry depth) ws entries) :
    ReadsBack (depth + 1) (enclose layout level '\x7b' '\x7d' ws) (.table entries) := by
  have hsame : Keyed.ofList entries = entries := Keyed.ofList_of_nodup hn
  cases h with
  | nil =>
    refine ⟨⟨'\x7b', ['\x7d'], rfl, by decide, by decide⟩, fun {bound} hbound rest _ => ?_⟩
    obtain ⟨bound, rfl⟩ := Nat.exists_eq_add_one_of_ne_zero (Nat.ne_zero_of_lt hbound)
    rfl
  | @cons w e ws entries hw hws =>
    obtain ⟨front, gap, back, hform, hfront, hgap, hback⟩ :=
      exists_enclose layout level '\x7b' '\x7d' w ws
    rw [hform]
    refine ⟨⟨'\x7b', _, rfl, by decide, by decide⟩, fun {bound} hbound rest _ => ?_⟩
    obtain ⟨bound, rfl⟩ := Nat.exists_eq_add_one_of_ne_zero (Nat.ne_zero_of_lt hbound)
    simp only [List.length_cons, List.length_append] at hbound
    have hentries : readEntries bound depth
        ((',' :: gap).intercalate (w :: ws) ++ (back ++ '\x7d' :: rest)) =
          .ok (e :: entries, rest) :=
      readEntries_back (.cons hw hws) (List.cons_ne_nil w ws) hgap hback rest (by omega)
    obtain ⟨t, ht⟩ := exists_intercalate_cons (',' :: gap) w ws
    obtain ⟨q, rfl⟩ := hw.exists_quoted
    rw [List.cons_append, List.append_assoc, List.append_assoc, List.append_assoc,
      List.singleton_append, readValue, skipSpace_append hfront]
    rw [ht, List.cons_append, List.cons_append] at hentries ⊢
    rw [skipSpace_cons (by decide)]
    split
    · rename_i hclosed
      exact absurd (List.cons.inj hclosed).1 (by decide)
    · rw [hentries]
      simp only [Except.map, hsame]

end

/-! ### Values -/

/-- The values that JSON keeps as they are: no moments, no numbers that are rounded, and no key of a
table twice. -/
inductive Exact : Value → Prop where
  | null : Exact .null
  | bool (b : Bool) : Exact (.bool b)
  | int (i : Int) : Exact (.int i)
  | text (s : String) : Exact (.text s)
  | list {items : List Value} (h : ∀ v ∈ items, Exact v) : Exact (.list items)
  | table {entries : Entries} (hn : (Keyed.keys entries).Nodup) (h : ∀ e ∈ entries, Exact e.2) :
    Exact (.table entries)

theorem depth_le_depthOfItems {items : List Value} {v : Value} (h : v ∈ items) :
    v.depth ≤ Value.depthOfItems items := by
  induction items with
  | nil => exact absurd h List.not_mem_nil
  | cons first rest ih =>
    rw [Value.depthOfItems]
    rcases List.mem_cons.1 h with rfl | h
    · exact Nat.le_max_left _ _
    · exact Nat.le_trans (ih h) (Nat.le_max_right _ _)

theorem depth_le_depthOfEntries {entries : List (String × Value)} {e : String × Value}
    (h : e ∈ entries) : e.2.depth ≤ Value.depthOfEntries entries := by
  induction entries with
  | nil => exact absurd h List.not_mem_nil
  | cons first rest ih =>
    rw [Value.depthOfEntries]
    rcases List.mem_cons.1 h with rfl | h
    · exact Nat.le_max_left _ _
    · exact Nat.le_trans (ih h) (Nat.le_max_right _ _)

section
variable [StandIns] {layout : Layout}

theorem writeItems_eq_mapM (level : Nat) (items : List Value) :
    writeItems layout level items = items.mapM (writeValue layout level) := by
  induction items with
  | nil => rfl
  | cons v rest ih => rw [writeItems, ih, List.mapM_cons]

theorem writeEntries_eq_map (level : Nat) (entries : List (String × Value)) :
    writeEntries layout level entries = entries.map fun e => (e.1, writeValue layout level e.2) := by
  induction entries with
  | nil => rfl
  | cons e rest ih => rw [writeEntries, ih, List.map_cons]

/-- Values that JSON keeps are written if their integers can be. -/
theorem exists_writeValue (hkeys : layout.sortKeys = false) {v : Value} (hv : Exact v)
    (hwritable : v.isWritable = true) (level : Nat) : ∃ w, writeValue layout level v = .ok w := by
  induction hv generalizing level with
  | null => exact ⟨_, rfl⟩
  | bool b => cases b <;> exact ⟨_, rfl⟩
  | int i =>
    rw [Value.isWritable] at hwritable
    rw [writeValue, if_pos hwritable]
    exact ⟨_, rfl⟩
  | text s => exact ⟨_, rfl⟩
  | @list items h ih =>
    rw [writeValue, writeItems_eq_mapM]
    cases hitems : items.mapM (writeValue layout (level + 1)) with
    | ok ws => exact ⟨_, rfl⟩
    | error e =>
      obtain ⟨v, hmem, he⟩ := Outcome.exists_of_mapM_eq_error hitems
      obtain ⟨w, hw⟩ := ih v hmem (areWritable_iff.1 hwritable v hmem) (level + 1)
      exact absurd (he.symm.trans hw) (by simp)
  | @table entries hn h ih =>
    rw [writeValue, writeEntries_eq_map, arrange, if_neg (by simp [hkeys]), List.mapM_map]
    cases hentries : entries.mapM fun e => (writeValue layout (level + 1) e.2).map fun text =>
        writeEntry layout (e.1, text) with
    | ok ws => exact ⟨_, congrArg (· >>= _) hentries⟩
    | error e =>
      obtain ⟨entry, hmem, he⟩ := Outcome.exists_of_mapM_eq_error hentries
      obtain ⟨w, hw⟩ := ih entry hmem (entriesWritable_iff.1 hwritable entry hmem) (level + 1)
      rw [hw] at he
      exact absurd he (by simp [Except.map])

/-- What was written for a value is read back as the value. -/
theorem readsBack_of_write (hkeys : layout.sortKeys = false) (hascii : layout.asciiOnly = false)
    {v : Value} (hv : Exact v) {level depth : Nat} {w : List Char}
    (hw : writeValue layout level v = .ok w) (hdepth : v.depth ≤ depth) : ReadsBack depth w v := by
  induction hv generalizing level depth w with
  | null =>
    obtain rfl := Except.ok.inj hw
    exact .of_scalar (by decide) fun _ => rfl
  | bool b =>
    cases b with
    | true =>
      obtain rfl := Except.ok.inj hw
      exact .of_scalar (by decide) fun _ => rfl
    | false =>
      obtain rfl := Except.ok.inj hw
      exact .of_scalar (by decide) fun _ => rfl
  | int i =>
    rw [writeValue] at hw
    split at hw
    · rename_i hwritable
      obtain rfl := Except.ok.inj hw
      exact .int hwritable
    · exact absurd hw (by simp)
  | text s =>
    rw [writeValue, hascii] at hw
    obtain rfl := Except.ok.inj hw
    exact .text s
  | @list items h ih =>
    rw [Value.depth] at hdepth
    obtain ⟨depth, rfl⟩ := Nat.exists_eq_add_one_of_ne_zero (Nat.ne_zero_of_lt hdepth)
    rw [writeValue, writeItems_eq_mapM] at hw
    obtain ⟨ws, hws, rfl⟩ := Outcome.map_eq_ok_iff.1 hw
    refine .list layout level (Outcome.forall₂_of_mapM hws fun v hmem w hw => ?_)
    have hle := depth_le_depthOfItems hmem
    exact ih v hmem hw (by omega)
  | @table entries hn h ih =>
    rw [Value.depth] at hdepth
    obtain ⟨depth, rfl⟩ := Nat.exists_eq_add_one_of_ne_zero (Nat.ne_zero_of_lt hdepth)
    rw [writeValue, writeEntries_eq_map, arrange, if_neg (by simp [hkeys])] at hw
    obtain ⟨ws, hws, hform⟩ := Outcome.bind_eq_ok_iff.1 hw
    obtain rfl := Except.ok.inj hform
    rw [List.mapM_map] at hws
    refine .table layout level hn (Outcome.forall₂_of_mapM hws fun e hmem w hw => ?_)
    obtain ⟨u, hu, rfl⟩ := Outcome.map_eq_ok_iff.1 hw
    have hle := depth_le_depthOfEntries hmem
    refine ⟨u, ?_, ih e hmem hu (by omega)⟩
    rw [writeEntry, hascii]

/-- Space around a text that is read back makes no difference. -/
theorem ReadsBack.readChars {w : List Char} {v : Value} (h : ReadsBack depthLimit w v)
    (front back : List Char) (hfront : ∀ c ∈ front, isSpace c = true)
    (hback : ∀ c ∈ back, isSpace c = true) : readChars (front ++ (w ++ back)) = .ok v := by
  have hbound : w.length ≤ 2 * (front ++ (w ++ back)).length + 2 := by
    simp only [List.length_append]
    omega
  have hstops : Stops back := by
    have hs := Stops.behindSpace hback .nil
    rwa [List.append_nil] at hs
  have hend : skipSpace back = [] := by
    have hs := skipSpace_append hback []
    rwa [List.append_nil] at hs
  rw [Json.readChars, skipSpace_append hfront, h.skipSpace_eq, h.read hbound fun _ _ => hstops]
  simp only [bind, Except.bind, hend]
  rfl

/-- Reading undoes writing. -/
theorem read_write (hkeys : layout.sortKeys = false) (hascii : layout.asciiOnly = false)
    {v : Value} (hv : Exact v) (hdepth : v.depth ≤ depthLimit) {s : String}
    (hs : write layout v = .ok s) : read s = .ok v := by
  obtain ⟨w, hw, rfl⟩ := Outcome.map_eq_ok_iff.1 hs
  have h := (readsBack_of_write hkeys hascii hv hw hdepth).readChars [] [] (by simp) (by simp)
  rw [read, String.toList_ofList]
  rwa [List.nil_append, List.append_nil] at h

end

end PatchReview.Json
