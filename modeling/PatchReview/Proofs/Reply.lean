import PatchReview.Proofs.Json.Reading
import PatchReview.Proofs.Text.Scan
import PatchReview.Reply

/-! What reading a reply comes to.

Each stretch of a reply in which a table is looked for is a part of the reply, so what reading it
fails at is in the reply: a run of digits that is too long, or too many opening brackets
(`oversized_of_findings`). The tables that are found hold nothing that cannot be written
(`isWritable_of_mem_findings`). -/
namespace PatchReview.Reply

open Text Json

/-- What makes reading a text fail although the text may be JSON: a run of digits that is too long,
or more opening brackets than lists and tables may be nested. -/
inductive Oversized (s : List Char) : Failure → Prop where
  | digits {digits : List Char} (hpart : digits <:+: s) (hdigits : ∀ c ∈ digits, c.isDigit = true)
      (hlong : digitLimit < digits.length) : Oversized s (.numeral (.tooLong digits.length))
  | brackets {table : Bool} (hdeep : depthLimit < s.countP opens) : Oversized s (.jsonTooDeep table)

theorem Oversized.of_part {s t : List Char} {e : Failure} (h : Oversized t e) (hpart : t <:+: s) :
    Oversized s e := by
  cases h with
  | digits hdigits hall hlong => exact .digits (hdigits.trans hpart) hall hlong
  | brackets hdeep => exact .brackets (Nat.lt_of_lt_of_le hdeep hpart.sublist.countP_le)

/-! ### Stretches of a reply -/

theorem exists_of_findSuffix? {α : Type} {p : List Char → Option α} {s : List Char} {a : α}
    (h : findSuffix? p s = some a) : ∃ t, t <:+ s ∧ p t = some a := by
  induction s with
  | nil => exact ⟨[], List.suffix_rfl, h⟩
  | cons c s ih =>
    rw [findSuffix?] at h
    split at h
    · rename_i ha
      exact ⟨c :: s, List.suffix_rfl, ha.trans h⟩
    · obtain ⟨t, ht, ha⟩ := ih h
      exact ⟨t, ht.trans (List.suffix_cons c s), ha⟩

/-- What opens a fenced block. -/
def openings : List (List Char) :=
  [['\x60', '\x60', '\x60', 'j', 's', 'o', 'n', '\n'], ['\x60', '\x60', '\x60', '\n']]

theorem exists_opening {s t : List Char} (h : afterFence? s = some t) :
    ∃ opening ∈ openings, s = opening ++ t := by
  obtain ⟨u, hu, h⟩ := Option.bind_eq_some_iff.1 h
  rw [(after?_eq_some_iff _ _ _).1 hu]
  rcases Option.or_eq_some_iff.1 (Option.orElse_eq_or.symm.trans h) with h | ⟨-, h⟩
  · rw [(after?_eq_some_iff _ _ _).1 h]
    exact ⟨_, List.mem_cons_self, rfl⟩
  · rw [(after?_eq_some_iff _ _ _).1 h]
    exact ⟨_, List.mem_cons_of_mem _ List.mem_cons_self, rfl⟩

theorem exists_of_untilFence {s t : List Char} (h : untilFence s = some t) :
    ∃ rest, s = t ++ (closingFence ++ rest) := by
  induction s generalizing t with
  | nil => exact absurd h (Option.some_ne_none t).symm
  | cons c s ih =>
    rw [untilFence] at h
    split at h
    · rename_i hcloses
      obtain rfl := Option.some.inj h
      exact (startsWith_iff _ _).1 hcloses
    · obtain ⟨u, hu, rfl⟩ := Option.map_eq_some_iff.1 h
      obtain ⟨rest, hrest⟩ := ih hu
      exact ⟨rest, congrArg (c :: ·) hrest⟩

/-- A fenced block stands between its opening and its closing. -/
theorem exists_of_fenced? {s t : List Char} (h : fenced? s = some t) :
    ∃ opening ∈ openings, ∃ front back,
      s = front ++ (opening ++ (t ++ (closingFence ++ back))) := by
  obtain ⟨_, ⟨front, rfl⟩, hhere⟩ := exists_of_findSuffix? h
  obtain ⟨content, hcontent, hblock⟩ := Option.bind_eq_some_iff.1 hhere
  obtain ⟨opening, hopening, rfl⟩ := exists_opening hcontent
  cases content with
  | nil => exact absurd hblock (Option.some_ne_none t).symm
  | cons c rest =>
    obtain ⟨u, hu, rfl⟩ := Option.map_eq_some_iff.1 hblock
    obtain ⟨back, rfl⟩ := exists_of_untilFence hu
    exact ⟨opening, hopening, front, back, rfl⟩

theorem part_of_fenced? {s t : List Char} (h : fenced? s = some t) : t <:+: s := by
  obtain ⟨opening, -, front, back, rfl⟩ := exists_of_fenced? h
  exact ⟨front ++ opening, closingFence ++ back, by simp⟩

theorem part_of_stretch? {s t : List Char} (h : stretch? s = some t) : t <:+: s := by
  unfold stretch? at h
  dsimp only at h
  split at h
  · obtain rfl := Option.some.inj h
    have hfront : toLastBrace (s.dropWhile (· != '\x7b')) <+: s.dropWhile (· != '\x7b') := by
      rw [toLastBrace, ← List.reverse_suffix, List.reverse_reverse]
      exact List.dropWhile_suffix _
    exact hfront.isInfix.trans (List.dropWhile_suffix _).isInfix
  · exact absurd h (Option.some_ne_none t).symm

theorem mem_stretches {reply t : List Char}
    (h : some t ∈ [some reply, fenced? reply, stretch? reply]) : t <:+: reply := by
  simp only [List.mem_cons, List.not_mem_nil, or_false] at h
  rcases h with h | h | h
  · rw [Option.some.inj h]
  · exact part_of_fenced? h.symm
  · exact part_of_stretch? h.symm

/-! ### Tables of a reply -/

theorem table?_eq_some_iff {v : Option Value} {entries : Entries} :
    table? v = some entries ↔ v = some (.table entries) := by
  unfold table?
  split
  · simp
  · rename_i hno
    exact ⟨fun h => absurd h (Option.some_ne_none _).symm, fun h => absurd h (hno entries)⟩

/-- What stands in a table that can be written can be written. -/
theorem isWritable_of_get? {entries : Entries} (h : (Value.table entries).isWritable = true)
    {name : String} {v : Value} (hv : entries.get? name = some v) : v.isWritable = true :=
  entriesWritable_iff.1 h _ (Keyed.mem_of_get? hv)

theorem isWritable_of_mem_tablesIn {v : Option Value} (h : ∀ x, v = some x → x.isWritable = true)
    {entries : Entries} (hmem : entries ∈ tablesIn v) : (Value.table entries).isWritable = true := by
  unfold tablesIn at hmem
  split at hmem
  · rename_i items
    obtain ⟨x, hx, htable⟩ := List.mem_filterMap.1 hmem
    have hitem := areWritable_iff.1 (h _ rfl) x hx
    rwa [Option.some.inj (table?_eq_some_iff.1 htable)] at hitem
  · exact absurd hmem List.not_mem_nil

section
variable [StandIns]

theorem readChars_of_valueOf? {s : List Char} {v : Value} (h : valueOf? s = .ok (some v)) :
    readChars s = .ok v := by
  unfold valueOf? at h
  split at h
  · rename_i hread
    rw [hread, Option.some.inj (Except.ok.inj h)]
  all_goals exact absurd h (by simp)

theorem oversized_of_valueOf? {s : List Char} {e : Failure} (h : valueOf? s = .error e) :
    Oversized s e := by
  unfold valueOf? at h
  split at h
  · exact absurd h (by simp)
  · exact absurd h (by simp)
  · rename_i hread
    obtain rfl := Except.error.inj h
    cases flaw_of_readChars hread with
    | numeral hpart hdigits hlong => exact .digits hpart hdigits hlong
  · rename_i hread
    obtain rfl := Except.error.inj h
    cases flaw_of_readChars hread with
    | tooDeep hdeep => exact .brackets hdeep

theorem exists_of_firstTable?_eq_error {stretches : List (Option (List Char))} {e : Failure}
    (h : firstTable? stretches = .error e) : ∃ s, some s ∈ stretches ∧ valueOf? s = .error e := by
  induction stretches with
  | nil => exact absurd h (by simp [firstTable?])
  | cons stretch rest ih =>
    have hrest (h : firstTable? rest = .error e) :
        ∃ s, some s ∈ stretch :: rest ∧ valueOf? s = .error e := by
      obtain ⟨s, hs, he⟩ := ih h
      exact ⟨s, List.mem_cons_of_mem _ hs, he⟩
    cases stretch with
    | none => exact hrest h
    | some s =>
      rcases Outcome.bind_eq_error_iff.1 h with he | ⟨v, -, h⟩
      · exact ⟨s, List.mem_cons_self, he⟩
      · split at h
        · exact absurd h (by simp [pure, Except.pure])
        · exact hrest h

theorem exists_of_firstTable?_eq_ok {stretches : List (Option (List Char))} {entries : Entries}
    (h : firstTable? stretches = .ok (some entries)) :
    ∃ s, some s ∈ stretches ∧ valueOf? s = .ok (some (.table entries)) := by
  induction stretches with
  | nil => exact absurd h (by simp [firstTable?])
  | cons stretch rest ih =>
    have hrest (h : firstTable? rest = .ok (some entries)) :
        ∃ s, some s ∈ stretch :: rest ∧ valueOf? s = .ok (some (.table entries)) := by
      obtain ⟨s, hs, he⟩ := ih h
      exact ⟨s, List.mem_cons_of_mem _ hs, he⟩
    cases stretch with
    | none => exact hrest h
    | some s =>
      obtain ⟨v, hv, h⟩ := Outcome.bind_eq_ok_iff.1 h
      split at h
      · rename_i found hfound
        obtain rfl := Option.some.inj (Except.ok.inj h)
        exact ⟨s, List.mem_cons_self, hv.trans (congrArg _ (table?_eq_some_iff.1 hfound))⟩
      · exact hrest h

/-- Looking for findings fails only at what is in the reply. -/
theorem oversized_of_findings {reply : String} {e : Failure} (h : findings reply = .error e) :
    Oversized reply.toList e := by
  rcases Outcome.bind_eq_error_iff.1 h with hfirst | ⟨v, -, h⟩
  · obtain ⟨t, ht, he⟩ := exists_of_firstTable?_eq_error hfirst
    exact (oversized_of_valueOf? he).of_part (mem_stretches ht)
  · split at h <;> exact absurd h (by simp [pure, Except.pure])

/-- The tables that are found in a reply hold nothing that cannot be written. -/
theorem isWritable_of_mem_findings {reply : String} {tables : List Entries}
    (h : findings reply = .ok tables) {entries : Entries} (hmem : entries ∈ tables) :
    (Value.table entries).isWritable = true := by
  obtain ⟨found, hfirst, h⟩ := Outcome.bind_eq_ok_iff.1 h
  split at h
  · rename_i whole
    obtain rfl := Except.ok.inj h
    obtain ⟨t, -, hvalue⟩ := exists_of_firstTable?_eq_ok hfirst
    have hwhole := (unfenced_of_readChars (readChars_of_valueOf? hvalue)).2
    exact isWritable_of_mem_tablesIn (fun x hx => isWritable_of_get? hwhole hx) hmem
  · obtain rfl := Except.ok.inj h
    exact absurd hmem List.not_mem_nil

end

end PatchReview.Reply
