import ApiDocs.Proofs.Settings.Layers

/-!
# Typed settings

What an option accepts is a setting of the type of its default, and of one of its words where it is
limited to some.  Such a setting is accepted again as it is, so the snapshot of a store makes any
other store the same.
-/

namespace ApiDocs

/-- Two settings of one type. -/
def Setting.SameType : Setting → Setting → Prop
  | .switch _, .switch _ => True
  | .text _, .text _ => True
  | .texts _, .texts _ => True
  | _, _ => False

namespace OptionName

theorem mem_all (option : OptionName) : option ∈ all := by
  cases option <;> decide

theorem all_nodup : all.Nodup := by
  decide

/-- A setting of the type of an option's default, among its words if it is limited to some. -/
structure Fits (option : OptionName) (setting : Setting) : Prop where
  sameType : setting.SameType option.default
  logger : option = .logger → setting ∈ ["console", "none"].map Setting.text
  logLevel : option = .logLevel →
    setting ∈ ["verbose", "info", "warn", "error", "none"].map Setting.text

variable {option : OptionName} {setting : Setting} {given : Value} {word usual : String}
  {room : Nat}

theorem fits_text_iff (isText : option.default = .text usual) :
    option.Fits (.text word) ↔ ∀ allowed, option.allowed? = some allowed → word ∈ allowed := by
  constructor
  · intro fits allowed limited
    cases option <;> cases limited
    · simpa using fits.logger rfl
    · simpa [Level.all, Level.word] using fits.logLevel rfl
  · intro isAllowed
    refine ⟨by rw [isText]; trivial, ?_, ?_⟩
    · rintro rfl
      simpa using isAllowed _ rfl
    · rintro rfl
      simpa [Level.all, Level.word] using isAllowed _ rfl

theorem fits_of_unlimited (sameType : setting.SameType option.default)
    (noText : ∀ text, option.default ≠ .text text) : option.Fits setting := by
  refine ⟨sameType, ?_, ?_⟩
  · rintro rfl
    exact absurd rfl (noText "console")
  · rintro rfl
    exact absurd rfl (noText "info")

theorem accept_text (isText : option.default = .text usual) (word : String) :
    option.accept room (.text word) =
      match option.allowed? with
      | none => .ok (.text word)
      | some allowed =>
        if allowed.contains word then .ok (.text word)
        else .error (.notAllowed option allowed) := by
  rw [accept]
  split
  · rename_i isSwitch
    cases isText.symm.trans isSwitch
  · rename_i isTexts
    cases isText.symm.trans isTexts
  · rfl

theorem fits_of_accept_text (isText : option.default = .text usual)
    (accepts : option.accept room (.text word) = .ok setting) : option.Fits setting := by
  rw [accept_text isText] at accepts
  split at accepts
  · rename_i unlimited
    cases accepts
    refine (fits_text_iff isText).mpr fun allowed limited => ?_
    rw [unlimited] at limited
    cases limited
  · rename_i allowed limited
    split at accepts
    · rename_i inside
      cases accepts
      refine (fits_text_iff isText).mpr fun words isLimited => ?_
      obtain rfl := Option.some.inj (limited.symm.trans isLimited)
      exact List.contains_iff_mem.mp inside
    · cases accepts

theorem plainTexts_eq_ok {items : List Value} (plain : plainTexts room items = .ok setting) :
    ∃ values, setting = .texts values := by
  rw [plainTexts] at plain
  split at plain <;> cases plain
  exact ⟨_, rfl⟩

theorem fits_of_accept (accepts : option.accept room given = .ok setting) :
    option.Fits setting := by
  cases type : option.default with
  | switch usual =>
      simp only [accept, type] at accepts
      cases given <;> cases accepts
      refine fits_of_unlimited ?_ (by simp [type])
      rw [type]
      trivial
  | texts usual =>
      have isTexts : ∃ values, setting = .texts values := by
        simp only [accept, type] at accepts
        cases given with
        | list items => exact plainTexts_eq_ok accepts
        | tuple items => exact plainTexts_eq_ok accepts
        | text value | path value =>
            cases accepts
            exact ⟨_, rfl⟩
        | _ => cases accepts
      obtain ⟨values, rfl⟩ := isTexts
      refine fits_of_unlimited ?_ (by simp [type])
      rw [type]
      trivial
  | text usual =>
      cases given with
      | text word => exact fits_of_accept_text type accepts
      | path path =>
          have asText : option.accept room (.text path.text) = .ok setting := by
            rw [← accepts]
            simp only [accept, type]
          exact fits_of_accept_text type asText
      | _ =>
          simp only [accept, type] at accepts
          cases accepts

theorem accept_of_fits (fits : option.Fits setting) :
    option.accept room setting.value = .ok setting := by
  have sameType := fits.sameType
  cases type : option.default with
  | switch usual =>
      rw [type] at sameType
      cases setting with
      | switch value => simp only [accept, type, Setting.value]
      | _ => exact sameType.elim
  | texts usual =>
      rw [type] at sameType
      cases setting with
      | texts values =>
          simp only [accept, type, Setting.value, plainTexts_text]
      | _ => exact sameType.elim
  | text usual =>
      rw [type] at sameType
      cases setting with
      | text word =>
          have isAllowed := (fits_text_iff type).mp fits
          rw [Setting.value, accept_text type]
          cases limited : option.allowed? with
          | none => rfl
          | some allowed => exact if_pos (List.contains_iff_mem.mpr (isAllowed allowed limited))
      | _ => exact sameType.elim

theorem fits_default (option : OptionName) : option.Fits option.default :=
  fits_of_accept (option.accept_default 0)

end OptionName

namespace Options

variable (room : Nat)

/-! ## Setting options -/

theorem set_eq (options : Options) (name : String) (given : Value) :
    options.set room name given =
      (entrySetting room (.text name, given)).map fun entry =>
        options.setOption entry.1 entry.2 := by
  cases named : OptionName.ofWord? name with
  | none => simp only [set, entrySetting, named, Except.map]
  | some option =>
      simp only [set, entrySetting, named]
      cases option.accept room given <;> rfl

theorem settings_setOption (options : Options) (option other : OptionName) (setting : Setting) :
    (options.setOption option setting).settings other =
      if other = option then setting else options.settings other :=
  rfl

theorem setAll_cons (options : Options) (name : String) (given : Value)
    (entries : List (String × Value)) :
    options.setAll room ((name, given) :: entries) =
      match options.set room name given with
      | .ok changed => changed.setAll room entries
      | .error fault => (options, some fault) := by
  rw [setAll]
  cases options.set room name given <;> rfl

/-- An entry sets an option to what the option accepts. -/
def Sets (entry : String × Value) (set : OptionName × Setting) : Prop :=
  entry.1 = set.1.word ∧ set.1.accept room entry.2 = .ok set.2

/-- Just the entries before the first refused one set their options. -/
theorem setAll_keeps (options : Options) (entries : List (String × Value)) :
    ∃ kept rest, entries = kept ++ rest ∧
      (∃ settings, List.Forall₂ (Sets room) kept settings ∧
        (options.setAll room entries).1 =
          settings.foldl (fun options set => options.setOption set.1 set.2) options) ∧
      match (options.setAll room entries).2 with
      | none => rest = []
      | some fault => ∃ refused later, rest = refused :: later ∧
          options.set room refused.1 refused.2 = .error fault := by
  induction entries generalizing options with
  | nil => exact ⟨[], [], rfl, ⟨[], .nil, rfl⟩, rfl⟩
  | cons entry entries inductionHypothesis =>
      obtain ⟨name, given⟩ := entry
      rw [setAll_cons]
      cases isSet : options.set room name given with
      | error fault =>
          exact ⟨[], (name, given) :: entries, rfl, ⟨[], .nil, rfl⟩, (name, given), entries, rfl,
            isSet⟩
      | ok changed =>
          obtain ⟨kept, rest, split, ⟨settings, areSet, same⟩, outcome⟩ :=
            inductionHypothesis changed
          rw [set_eq] at isSet
          obtain ⟨set, sets, rfl⟩ := exists_of_map_ok isSet
          obtain ⟨isName, accepts⟩ := entrySetting_eq_ok sets
          refine ⟨(name, given) :: kept, rest, congrArg ((name, given) :: ·) split,
            ⟨set :: settings, .cons ⟨Value.text.inj isName, accepts⟩ areSet, same⟩, ?_⟩
          -- whether an entry is refused does not depend on the settings
          revert outcome
          cases ((options.setOption set.1 set.2).setAll room entries).2 with
          | none => exact id
          | some fault =>
              rintro ⟨refused, later, restEq, fails⟩
              refine ⟨refused, later, restEq, ?_⟩
              rw [set_eq] at fails ⊢
              cases refusal : entrySetting room (.text refused.1, refused.2) with
              | error other =>
                  rw [refusal] at fails
                  exact fails
              | ok other =>
                  rw [refusal] at fails
                  cases fails

/-! ## Snapshots -/

/-- What a snapshot says, as values. -/
def snapshotValues (options : Options) : List (String × Value) :=
  options.snapshot.map fun entry => (entry.1, entry.2.value)

theorem snapshotValues_eq (options : Options) :
    options.snapshotValues =
      OptionName.all.map fun option => (option.word, (options.settings option).value) := by
  rw [snapshotValues, snapshot, List.map_map]
  rfl

theorem setAll_of_fits {settings : OptionName → Setting} (options : Options)
    (among : List OptionName) (fits : ∀ option ∈ among, option.Fits (settings option)) :
    options.setAll room (among.map fun option => (option.word, (settings option).value)) =
      (among.foldl (fun options option => options.setOption option (settings option)) options,
        none) := by
  induction among generalizing options with
  | nil => rfl
  | cons first others inductionHypothesis =>
      obtain ⟨firstFits, othersFit⟩ := List.forall_mem_cons.mp fits
      have isSet : options.set room first.word (settings first).value =
          .ok (options.setOption first (settings first)) := by
        rw [set_eq, entrySetting_word, OptionName.accept_of_fits firstFits]
        rfl
      rw [List.map_cons, setAll_cons, isSet]
      exact inductionHypothesis (options.setOption first (settings first)) othersFit

theorem settings_foldl_setOption (settings : OptionName → Setting) (options : Options)
    (among : List OptionName) (option : OptionName) :
    (among.foldl (fun options first => options.setOption first (settings first)) options).settings
        option =
      if option ∈ among then settings option else options.settings option := by
  induction among generalizing options with
  | nil => rw [List.foldl_nil, if_neg List.not_mem_nil]
  | cons first others inductionHypothesis =>
      rw [List.foldl_cons, inductionHypothesis, settings_setOption]
      by_cases later : option ∈ others
      · rw [if_pos later, if_pos (List.mem_cons_of_mem first later)]
      · rw [if_neg later]
        by_cases same : option = first
        · rw [if_pos same, if_pos (same ▸ List.mem_cons_self), same]
        · rw [if_neg same, if_neg (List.not_mem_cons_of_ne_of_not_mem same later)]

/-- A snapshot is accepted, and gives any store the settings that it was taken of. -/
theorem setAll_snapshotValues {options : Options}
    (fits : ∀ option : OptionName, option.Fits (options.settings option)) (other : Options) :
    (other.setAll room options.snapshotValues).2 = none ∧
      (other.setAll room options.snapshotValues).1.settings = options.settings := by
  rw [snapshotValues_eq, setAll_of_fits room other OptionName.all fun option _ => fits option]
  refine ⟨rfl, funext fun option => ?_⟩
  rw [settings_foldl_setOption, if_pos option.mem_all]

end Options

end ApiDocs
