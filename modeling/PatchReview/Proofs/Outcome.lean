import Mathlib.Data.List.Forall2

/-! Steps that may fail, one after the other.

A sequence of steps has a result exactly if every step has one (`mapM_eq_ok_iff`), and fails with
what the first that fails does (`mapM_eq_error_iff`). -/
namespace PatchReview.Outcome

variable {ε α β : Type}

theorem bind_eq_ok_iff {x : Except ε α} {f : α → Except ε β} {b : β} :
    (x >>= f) = .ok b ↔ ∃ a, x = .ok a ∧ f a = .ok b := by
  cases x with
  | error e => simp [bind, Except.bind]
  | ok a => simp [bind, Except.bind]

theorem bind_eq_error_iff {x : Except ε α} {f : α → Except ε β} {e : ε} :
    (x >>= f) = .error e ↔ x = .error e ∨ ∃ a, x = .ok a ∧ f a = .error e := by
  cases x with
  | error e => simp [bind, Except.bind]
  | ok a => simp [bind, Except.bind]

/-- What two steps fail with is what one of them fails with. -/
theorem error_bind {P : ε → Prop} {x : Except ε α} {f : α → Except ε β}
    (hx : ∀ e, x = .error e → P e) (hf : ∀ a e, f a = .error e → P e) :
    ∀ e, x >>= f = .error e → P e := by
  intro e h
  rcases bind_eq_error_iff.1 h with h | ⟨a, -, h⟩
  · exact hx e h
  · exact hf a e h

theorem map_eq_ok_iff {x : Except ε α} {f : α → β} {b : β} :
    x.map f = .ok b ↔ ∃ a, x = .ok a ∧ f a = b := by
  cases x with
  | error e => simp [Except.map]
  | ok a => simp [Except.map]

theorem map_eq_error_iff {x : Except ε α} {f : α → β} {e : ε} :
    x.map f = .error e ↔ x = .error e := by
  cases x with
  | error e => simp [Except.map]
  | ok a => simp [Except.map]

/-- A result stays what it is when failures are renamed. -/
theorem mapError_ok {ε' : Type} (f : ε → ε') (a : α) :
    (Except.ok a : Except ε α).mapError f = .ok a := rfl

theorem mapError_error {ε' : Type} (f : ε → ε') (e : ε) :
    (Except.error e : Except ε α).mapError f = .error (f e) := rfl

theorem mapError_eq_ok {ε' : Type} {x : Except ε α} {a : α} (h : x = .ok a) (f : ε → ε') :
    x.mapError f = .ok a := by
  rw [h, mapError_ok]

/-! ### Every item -/

/-- Whatever is on the right of a relation has something on the left. -/
theorem exists_of_forall₂ {r : α → β → Prop} {as : List α} {bs : List β} (h : List.Forall₂ r as bs)
    {b : β} (hb : b ∈ bs) : ∃ a ∈ as, r a b := by
  induction h with
  | nil => exact absurd hb List.not_mem_nil
  | @cons first made rest more hfirst _ ih =>
    rcases List.mem_cons.1 hb with rfl | hb
    · exact ⟨first, List.mem_cons_self, hfirst⟩
    · obtain ⟨a, ha, hab⟩ := ih hb
      exact ⟨a, List.mem_cons_of_mem _ ha, hab⟩

variable {f : α → Except ε β}

theorem mapM_eq_ok_iff {items : List α} {out : List β} :
    items.mapM f = .ok out ↔ List.Forall₂ (fun a b => f a = .ok b) items out := by
  induction items generalizing out with
  | nil => cases out <;> simp [pure, Except.pure]
  | cons a rest ih =>
    rw [List.mapM_cons, bind_eq_ok_iff, List.forall₂_cons_left_iff]
    constructor
    · rintro ⟨b, hb, h⟩
      obtain ⟨more, hmore, hout⟩ := bind_eq_ok_iff.1 h
      exact ⟨b, more, hb, ih.1 hmore, (Except.ok.inj hout).symm⟩
    · rintro ⟨b, more, hb, hmore, rfl⟩
      exact ⟨b, hb, bind_eq_ok_iff.2 ⟨more, ih.2 hmore, rfl⟩⟩

/-- Whether going through some items stops at one of them, having passed all before it. -/
def StopsAt (passes stops : α → Prop) (items : List α) : Prop :=
  ∃ before a after, items = before ++ a :: after ∧ (∀ b ∈ before, passes b) ∧ stops a

theorem not_stopsAt_nil (passes stops : α → Prop) : ¬StopsAt passes stops [] := by
  intro h
  obtain ⟨before, a, after, h, -, -⟩ := h
  exact absurd h (by simp)

theorem stopsAt_cons_iff {passes stops : α → Prop} {a : α} {rest : List α} :
    StopsAt passes stops (a :: rest) ↔ stops a ∨ passes a ∧ StopsAt passes stops rest := by
  constructor
  · intro h
    obtain ⟨before, b, after, hitems, hbefore, hb⟩ := h
    cases before with
    | nil =>
      obtain ⟨rfl, -⟩ := List.cons.inj hitems
      exact .inl hb
    | cons first before =>
      obtain ⟨rfl, hrest⟩ := List.cons.inj hitems
      exact .inr ⟨hbefore a List.mem_cons_self, before, b, after, hrest,
        fun c hc => hbefore c (List.mem_cons_of_mem _ hc), hb⟩
  · intro h
    rcases h with ha | ⟨ha, before, b, after, rfl, hbefore, hb⟩
    · exact ⟨[], a, rest, rfl, fun _ hc => absurd hc List.not_mem_nil, ha⟩
    · refine ⟨a :: before, b, after, rfl, fun c hc => ?_, hb⟩
      rcases List.mem_cons.1 hc with rfl | hc
      · exact ha
      · exact hbefore c hc

theorem StopsAt.exists_mem {passes stops : α → Prop} {items : List α}
    (h : StopsAt passes stops items) : ∃ a ∈ items, stops a := by
  obtain ⟨before, a, after, rfl, -, ha⟩ := h
  exact ⟨a, List.mem_append_right _ List.mem_cons_self, ha⟩

/-- A sequence of steps fails with what the first of them fails with. -/
theorem mapM_eq_error_iff {items : List α} {e : ε} :
    items.mapM f = .error e ↔ StopsAt (fun a => ∃ b, f a = .ok b) (f · = .error e) items := by
  induction items with
  | nil => simp [pure, Except.pure, not_stopsAt_nil]
  | cons a rest ih =>
    rw [List.mapM_cons, bind_eq_error_iff, stopsAt_cons_iff, ← ih]
    refine or_congr_right ?_
    constructor
    · intro h
      obtain ⟨b, hb, h⟩ := h
      rcases bind_eq_error_iff.1 h with hrest | ⟨more, -, hmore⟩
      · exact ⟨⟨b, hb⟩, hrest⟩
      · exact absurd hmore (by simp [pure, Except.pure])
    · intro h
      obtain ⟨⟨b, hb⟩, hrest⟩ := h
      exact ⟨b, hb, bind_eq_error_iff.2 (.inl hrest)⟩

/-- What holds of every item and what is made of it. -/
theorem forall₂_of_mapM {items : List α} {out : List β} (h : items.mapM f = .ok out)
    {r : β → α → Prop} (hr : ∀ a ∈ items, ∀ b, f a = .ok b → r b a) : List.Forall₂ r out items := by
  have hall := mapM_eq_ok_iff.1 h
  clear h
  induction hall with
  | nil => exact .nil
  | cons hfirst _ ih =>
    refine .cons (hr _ List.mem_cons_self _ hfirst) (ih fun a ha => ?_)
    exact hr a (List.mem_cons_of_mem _ ha)

theorem exists_of_mapM_eq_error {items : List α} {e : ε} (h : items.mapM f = .error e) :
    ∃ a ∈ items, f a = .error e := (mapM_eq_error_iff.1 h).exists_mem

/-- What a result holds was made of one of the items. -/
theorem exists_of_mem_mapM {items : List α} {out : List β} (h : items.mapM f = .ok out) {b : β}
    (hb : b ∈ out) : ∃ a ∈ items, f a = .ok b := exists_of_forall₂ (mapM_eq_ok_iff.1 h) hb

/-! ### Items that are kept -/

variable {p : α → Except ε Bool}

theorem filterAuxM_eq_ok {items before out : List α} (h : items.filterAuxM p before = .ok out) :
    ∀ a ∈ out, a ∈ before ∨ a ∈ items := by
  induction items generalizing before with
  | nil => exact fun a ha => .inl (Except.ok.inj h ▸ ha)
  | cons first rest ih =>
    obtain ⟨keep, -, h⟩ := bind_eq_ok_iff.1 h
    intro a ha
    rcases ih h a ha with hb | hr
    · cases keep with
      | true => exact (List.mem_cons.1 hb).elim (fun e => .inr (e ▸ List.mem_cons_self)) .inl
      | false => exact .inl hb
    · exact .inr (List.mem_cons_of_mem _ hr)

theorem exists_of_filterAuxM_eq_error {items before : List α} {e : ε}
    (h : items.filterAuxM p before = .error e) : ∃ a ∈ items, p a = .error e := by
  induction items generalizing before with
  | nil => exact absurd h (by simp [List.filterAuxM, pure, Except.pure])
  | cons first rest ih =>
    rcases bind_eq_error_iff.1 h with hf | ⟨keep, -, h⟩
    · exact ⟨first, List.mem_cons_self, hf⟩
    · obtain ⟨a, ha, he⟩ := ih h
      exact ⟨a, List.mem_cons_of_mem _ ha, he⟩

theorem mem_of_mem_filterM {items out : List α} (h : items.filterM p = .ok out) {a : α}
    (ha : a ∈ out) : a ∈ items := by
  obtain ⟨kept, hkept, hout⟩ := bind_eq_ok_iff.1 h
  obtain rfl := Except.ok.inj hout
  exact (filterAuxM_eq_ok hkept a (List.mem_reverse.1 ha)).resolve_left List.not_mem_nil

theorem exists_of_filterM_eq_error {items : List α} {e : ε} (h : items.filterM p = .error e) :
    ∃ a ∈ items, p a = .error e := by
  rcases bind_eq_error_iff.1 h with h | ⟨kept, -, h⟩
  · exact exists_of_filterAuxM_eq_error h
  · exact absurd h (by simp [pure, Except.pure])

end PatchReview.Outcome
