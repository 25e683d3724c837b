import PatchReview.Command.Arguments

/-! Options that are given first.

What an option says that comes first stands in front of what the others say, if none of these says
the same thing (`readArguments_behind`). So a review with a source in front, and further arguments
that leave it (`LeaveSource`), is the review that these ask for with the source put in
(`ofArguments_stdin`, `ofArguments_diffFile`). -/
namespace PatchReview.Command

/-- The options that some arguments give. What stands for a value gives none. -/
def formsGiven (forms : List OptionForm) : List String → List OptionForm
  | [] => []
  | argument :: rest =>
    if argument == "--" then []
    else if looksLikeOption argument then
      let (name, value?) := cutAtEquals argument
      match forms.find? (·.name == name) with
      | none => []
      | some form =>
        match form.value, value?, rest with
        | some _, some _, _ => [form]
        | none, none, [] => [form]
        | none, none, _ :: rest => form :: formsGiven forms rest
        | _, _, rest => form :: formsGiven forms rest
    else formsGiven forms rest

theorem put_cons_of_ne {key : String} {e : String × String} (h : key ≠ e.1) (value : String)
    (options : Keyed String String) :
    Keyed.put key value (e :: options) = e :: Keyed.put key value options :=
  if_neg (Ne.symm h)

theorem readArguments_behind {forms : List OptionForm} {anywhere : Bool} {e : String × String}
    {sofar : Arguments} {arguments : List String}
    (h : ∀ form ∈ formsGiven forms arguments, form.key ≠ e.1) :
    readArguments forms anywhere { sofar with options := e :: sofar.options } arguments =
      (readArguments forms anywhere sofar arguments).map fun read =>
        { read with options := e :: read.options } := by
  fun_induction readArguments forms anywhere sofar arguments with
  | case1 sofar =>
    rw [readArguments]
    rfl
  | case2 sofar argument rest hend =>
    rw [readArguments, if_pos hend]
    rfl
  | case3 sofar argument rest hend hoption name value? hcut hform =>
    rw [readArguments, if_neg hend, if_pos hoption]
    simp only [hcut, hform]
    rfl
  | case4 sofar argument hend hoption name form hform extended value rest hvalue hcut ih
  | case6 sofar argument hend hoption name form hform extended value rest hvalue hcut ih
  | case7 sofar argument hend hoption name form hform extended value rest hvalue hcut ih =>
    rw [formsGiven, if_neg hend, if_pos hoption] at h
    simp only [hcut, hform, hvalue, List.forall_mem_cons] at h
    rw [readArguments, if_neg hend, if_pos hoption]
    simp only [hcut, hform, hvalue, put_cons_of_ne h.1]
    exact ih h.2
  | case5 sofar argument _ hend hoption name form hform _ _ hvalue hcut
  | case8 sofar argument hend hoption name form hform hvalue hcut =>
    rw [readArguments, if_neg hend, if_pos hoption]
    simp only [hcut, hform, hvalue]
    rfl
  | case9 sofar argument rest hend hoption hanywhere ih =>
    rw [formsGiven, if_neg hend, if_neg hoption] at h
    rw [readArguments, if_neg hend, if_neg hoption, if_pos hanywhere]
    exact ih h
  | case10 sofar argument rest hend hoption hanywhere =>
    rw [readArguments, if_neg hend, if_neg hoption, if_neg hanywhere]
    rfl

/-- What has been read was there or is said by an option that is given. -/
theorem mem_options_of_readArguments {forms : List OptionForm} {anywhere : Bool}
    {sofar read : Arguments} {arguments : List String}
    (h : readArguments forms anywhere sofar arguments = .ok read) {e : String × String}
    (he : e ∈ read.options) :
    e ∈ sofar.options ∨ ∃ form ∈ formsGiven forms arguments, form.key = e.1 := by
  -- A value that is put is that of the option at hand; all others have been there before.
  have hput {form : OptionForm} {value : String} {options : Keyed String String}
      {later : List OptionForm} (ih : e ∈ Keyed.put form.key value options ∨
        ∃ other ∈ later, other.key = e.1) :
      e ∈ options ∨ ∃ other ∈ form :: later, other.key = e.1 := by
    rcases ih with hmem | ⟨other, hother, hkey⟩
    · rcases Keyed.mem_put hmem with rfl | hmem
      · exact .inr ⟨form, List.mem_cons_self, rfl⟩
      · exact .inl hmem
    · exact .inr ⟨other, List.mem_cons_of_mem _ hother, hkey⟩
  fun_induction readArguments forms anywhere sofar arguments with
  | case1 sofar => exact .inl (Except.ok.inj h ▸ he)
  | case2 | case10 => exact .inl (by rw [← Except.ok.inj h] at he; exact he)
  | case3 | case5 | case8 => exact absurd h (by simp)
  | case4 sofar argument hend hoption name form hform extended value rest hvalue hcut ih
  | case6 sofar argument hend hoption name form hform extended value rest hvalue hcut ih
  | case7 sofar argument hend hoption name form hform extended value rest hvalue hcut ih =>
    rw [formsGiven, if_neg hend, if_pos hoption]
    simp only [hcut, hform, hvalue]
    exact hput (ih h)
  | case9 sofar argument rest hend hoption hanywhere ih =>
    rw [formsGiven, if_neg hend, if_neg hoption]
    exact ih h

variable [Text.StandIns]

/-- What is made of arguments that have been read. -/
def ofRead (forms : List OptionForm) (make : Keyed String String → Command) (read : Arguments) :
    Except UsageError Command :=
  if isSet read.options helpForm.key then .ok (.help (forms.map (·.name)))
  else
    match refusedPath? read.options with
    | some e => .error e
    | none =>
      if read.others.isEmpty then .ok (make read.options)
      else .error (.extraArguments read.others)

theorem ofOptions_eq (forms : List OptionForm) (make : Keyed String String → Command)
    (arguments : List String) :
    ofOptions forms make arguments =
      readArguments (forms ++ [helpForm]) true ⟨[], []⟩ arguments >>=
        ofRead (forms ++ [helpForm]) make := by
  rw [ofOptions]
  refine bind_congr fun read => ?_
  rw [ofRead]
  cases isSet read.options helpForm.key with
  | true => rfl
  | false =>
    cases refusedPath? read.options with
    | some e => rfl
    | none => cases read.others.isEmpty <;> rfl

/-- What comes of options does not depend on the command that they make. -/
theorem ofOptions_cases (forms : List OptionForm) (arguments : List String) :
    (∃ e, ∀ make, ofOptions forms make arguments = .error e) ∨
    (∃ choices, ∀ make, ofOptions forms make arguments = .ok (.help choices)) ∨
    ∃ read, readArguments (forms ++ [helpForm]) true ⟨[], []⟩ arguments = .ok read ∧
      ∀ make, ofOptions forms make arguments = .ok (make read.options) := by
  simp only [ofOptions_eq]
  cases readArguments (forms ++ [helpForm]) true ⟨[], []⟩ arguments with
  | error e => exact .inl ⟨e, fun _ => rfl⟩
  | ok read =>
    simp only [bind, Except.bind, ofRead]
    cases isSet read.options helpForm.key with
    | true => exact .inr (.inl ⟨_, fun _ => rfl⟩)
    | false =>
      cases refusedPath? read.options with
      | some e => exact .inl ⟨e, fun _ => rfl⟩
      | none =>
        cases read.others.isEmpty with
        | false => exact .inl ⟨_, fun _ => rfl⟩
        | true => exact .inr (.inr ⟨read, rfl, fun _ => rfl⟩)

theorem refusedPath?_cons {e : String × String} (h : refusedPath? [e] = none)
    (options : Keyed String String) : refusedPath? (e :: options) = refusedPath? options := by
  rw [refusedPath?, List.findSome?_cons] at h ⊢
  split at h
  · exact absurd h (Option.some_ne_none _)
  · rfl

/-- An option that comes first, and is usable, says what it says beside all others. -/
theorem ofOptions_behind {forms : List OptionForm} {first rest : List String} {e : String × String}
    (hfirst : readArguments (forms ++ [helpForm]) true ⟨[], []⟩ (first ++ rest) =
      readArguments (forms ++ [helpForm]) true ⟨[e], []⟩ rest)
    (hrest : ∀ form ∈ formsGiven (forms ++ [helpForm]) rest, form.key ≠ e.1)
    (hhelp : e.1 ≠ helpForm.key) (hpath : refusedPath? [e] = none)
    (make : Keyed String String → Command) :
    ofOptions forms make (first ++ rest) = ofOptions forms (fun o => make (e :: o)) rest := by
  have hbehind : readArguments (forms ++ [helpForm]) true ⟨[e], []⟩ rest =
      (readArguments (forms ++ [helpForm]) true ⟨[], []⟩ rest).map fun read =>
        { read with options := e :: read.options } :=
    @readArguments_behind _ true e ⟨[], []⟩ rest hrest
  rw [ofOptions_eq, ofOptions_eq, hfirst, hbehind]
  cases readArguments (forms ++ [helpForm]) true ⟨[], []⟩ rest with
  | error cause => rfl
  | ok read =>
    have hset : isSet (e :: read.options) helpForm.key = isSet read.options helpForm.key := by
      rw [isSet, isSet, Keyed.get?, if_neg hhelp]
    show ofRead (forms ++ [helpForm]) make { read with options := e :: read.options } =
      ofRead (forms ++ [helpForm]) (fun o => make (e :: o)) read
    rw [ofRead, ofRead, hset, refusedPath?_cons hpath]

/-! ### Sources -/

/-- What options say about sources. -/
def sourceKeys : List String := sourceForms.map (·.key)

/-- Whether some arguments of a review say nothing about the source of the diff. -/
def LeaveSource (arguments : List String) : Prop :=
  ∀ form ∈ formsGiven (reviewForms ++ [helpForm]) arguments, form.key ∉ sourceKeys

omit [Text.StandIns] in
theorem get?_eq_none {options : Keyed String String} (h : ∀ e ∈ options, e.1 ∉ sourceKeys)
    {key : String} (hkey : key ∈ sourceKeys) : Keyed.get? key options = none := by
  cases hget : Keyed.get? key options with
  | none => rfl
  | some value => exact absurd hkey (h _ (Keyed.mem_of_get? hget))

section
variable {options : Keyed String String} (h : ∀ e ∈ options, e.1 ∉ sourceKeys)
include h

omit [Text.StandIns] in
theorem reviewIn_stdin :
    reviewIn (("stdin", yes) :: options) =
      { reviewIn options with source := ⟨none, true, none, none⟩ } := by
  have hfile := get?_eq_none h (show "diff-file" ∈ sourceKeys by decide)
  have hbase := get?_eq_none h (show "base" ∈ sourceKeys by decide)
  have hhead := get?_eq_none h (show "head" ∈ sourceKeys by decide)
  simp [reviewIn, sourceIn, repositoryIn, pathIn, isSet, Keyed.get?, hfile, hbase, hhead]

omit [Text.StandIns] in
theorem reviewIn_diffFile (path : String) :
    reviewIn (("diff-file", path) :: options) =
      { reviewIn options with source := ⟨some (.ofText path), false, none, none⟩ } := by
  have hinput := get?_eq_none h (show "stdin" ∈ sourceKeys by decide)
  have hbase := get?_eq_none h (show "base" ∈ sourceKeys by decide)
  have hhead := get?_eq_none h (show "head" ∈ sourceKeys by decide)
  simp [reviewIn, sourceIn, repositoryIn, pathIn, isSet, Keyed.get?, hinput, hbase, hhead]

end

theorem ofArguments_review (arguments : List String) :
    ofArguments ("review" :: arguments) =
      ofOptions reviewForms (fun o => .review (reviewIn o)) arguments := rfl

section
variable {rest : List String} (hrest : LeaveSource rest)
include hrest

omit [Text.StandIns] in
theorem LeaveSource.key_ne {key : String} (hkey : key ∈ sourceKeys) :
    ∀ form ∈ formsGiven (reviewForms ++ [helpForm]) rest, form.key ≠ key :=
  fun form hform he => hrest form hform (he ▸ hkey)

theorem ofArguments_stdin :
    ofArguments ("review" :: "--stdin" :: rest) =
      ofOptions reviewForms (fun o => .review (reviewIn (("stdin", yes) :: o))) rest :=
  (ofArguments_review _).trans <|
    @ofOptions_behind _ reviewForms ["--stdin"] rest ("stdin", yes) rfl
      (hrest.key_ne (by decide)) (by decide) rfl _

theorem ofArguments_diffFile {path : String} (hpath : Files.pathFault? path = none) :
    ofArguments ("review" :: "--diff-file" :: path :: rest) =
      ofOptions reviewForms (fun o => .review (reviewIn (("diff-file", path) :: o))) rest := by
  have hkey : "diff-file" ∈ sourceKeys := by decide
  have hhelp : "diff-file" ≠ helpForm.key := by decide
  have hrefused : refusedPath? [("diff-file", path)] = none := by simp [refusedPath?, hpath]
  exact (ofArguments_review _).trans <|
    @ofOptions_behind _ reviewForms ["--diff-file", path] rest ("diff-file", path) rfl
      (hrest.key_ne hkey) hhelp hrefused _

end

end PatchReview.Command
