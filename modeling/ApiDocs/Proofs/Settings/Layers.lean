import ApiDocs.Proofs.Settings.ConfigFile
import Mathlib.Data.List.TakeWhile

/-!
# Layers of settings

The settings that are given lie over those of the configuration file, and these over the defaults.
Every option is settled by itself: by the uppermost entry for it, if that is accepted, and else by
its default.  Each entry that is refused is one problem.
-/

namespace ApiDocs

variable {room : Nat}

/-! ## Entries -/

/-- Texts are written as they are. -/
theorem plainTexts_text (values : List String) :
    plainTexts room (values.map Value.text) = .ok (.texts values) := by
  have written : (values.map Value.text).findSome? (Value.exhaustsWithin? room) = none := by
    rw [List.findSome?_map, List.findSome?_eq_none_iff]
    exact fun _ _ => rfl
  have same : (values.map Value.text).map Value.plain = values := by
    rw [List.map_map]
    exact List.map_id values
  rw [plainTexts, written, same]

namespace OptionName

theorem ofWord?_eq_some_iff {word : String} {option : OptionName} :
    ofWord? word = some option ↔ word = option.word := by
  constructor
  · intro found
    have named : (option.word == word) = true :=
      List.find?_some (p := fun option : OptionName => option.word == word) found
    exact (beq_iff_eq.mp named).symm
  · rintro rfl
    exact ofWord?_word option

/-- What an entry means for an option, if there is an entry and it is accepted. -/
def accepted? (option : OptionName) (room : Nat) (uppermost? : Option Value) : Option Setting :=
  uppermost?.bind fun value => (option.accept room value).toOption

/-- A default is a setting that its option accepts. -/
theorem accept_default (option : OptionName) (room : Nat) :
    option.accept room option.default.value = .ok option.default := by
  cases option <;> rfl

/-- How an option is settled by the entries for it in the two layers over its default.  An entry
that is refused hides what lies below it. -/
def settled (option : OptionName) (room : Nat) (given? configured? : Option Value) : Setting :=
  match given?, configured? with
  | some value, _ => (option.accept room value).toOption.getD option.default
  | none, some value => (option.accept room value).toOption.getD option.default
  | none, none => option.default

theorem settled_eq (option : OptionName) (given? configured? : Option Value) :
    option.settled room given? configured? =
      (option.accepted? room (given?.or configured?)).getD option.default := by
  cases given? with
  | some value => rfl
  | none => cases configured? <;> rfl

end OptionName

/-- The option and the setting that an entry means. -/
def entrySetting (room : Nat) (entry : Value × Value) :
    Except OptionFault (OptionName × Setting) :=
  match entry.1 with
  | .text word =>
    match OptionName.ofWord? word with
    | none => .error (.unknown word)
    | some option => (option.accept room entry.2).map fun setting => (option, setting)
  | name => .error (.unknown name.plain)

theorem entrySetting_word (option : OptionName) (value : Value) :
    entrySetting room (.text option.word, value) =
      (option.accept room value).map fun setting => (option, setting) := by
  simp only [entrySetting, OptionName.ofWord?_word]

theorem entrySetting_eq_ok {name value : Value} {option : OptionName} {setting : Setting}
    (sets : entrySetting room (name, value) = .ok (option, setting)) :
    name = .text option.word ∧ option.accept room value = .ok setting := by
  cases name with
  | text word =>
      cases named : OptionName.ofWord? word with
      | none =>
          simp only [entrySetting, named] at sets
          cases sets
      | some other =>
          simp only [entrySetting, named] at sets
          obtain ⟨_, accepts, same⟩ := exists_of_map_ok sets
          cases same
          exact ⟨congrArg Value.text (OptionName.ofWord?_eq_some_iff.mp named), accepts⟩
  | _ => cases sets

/-- The problem with an entry that is refused. -/
def refusal? (room : Nat) (entry : Value × Value) : Option String :=
  match entrySetting room entry with
  | .ok _ => none
  | .error fault => some fault.message

/-- An entry is refused if no option of its name accepts its value; for an unknown name there is no
such option. -/
theorem refusal?_isSome_iff (entry : Value × Value) :
    (refusal? room entry).isSome ↔ ∀ option : OptionName, entry.1 = .text option.word →
      ∃ fault, option.accept room entry.2 = .error fault := by
  obtain ⟨name, value⟩ := entry
  rw [refusal?]
  cases sets : entrySetting room (name, value) with
  | ok set =>
      obtain ⟨named, accepts⟩ := entrySetting_eq_ok sets
      refine iff_of_false nofun fun refuses => ?_
      obtain ⟨fault, refused⟩ := refuses set.1 named
      rw [accepts] at refused
      cases refused
  | error fault =>
      refine iff_of_true rfl ?_
      rintro option rfl
      rw [entrySetting_word] at sets
      cases accepts : option.accept room value with
      | error fault => exact ⟨fault, rfl⟩
      | ok setting =>
          rw [accepts] at sets
          cases sets

namespace Options

/-- The options with one more that is set. -/
def setOption (options : Options) (option : OptionName) (setting : Setting) : Options :=
  { options.put option setting with given := options.given.insert option }

end Options

namespace Application

theorem applySettings_word (options : Options) (word : String) (value : Value)
    (entries : List (Value × Value)) :
    applySettings room options ((.text word, value) :: entries) =
      match options.set room word value with
      | .ok options => applySettings room options entries
      | .error fault =>
        ((applySettings room options entries).1,
          fault.message :: (applySettings room options entries).2) :=
  rfl

theorem applySettings_cons (options : Options) (entry : Value × Value)
    (entries : List (Value × Value)) :
    applySettings room options (entry :: entries) =
      match entrySetting room entry with
      | .ok (option, setting) => applySettings room (options.setOption option setting) entries
      | .error fault =>
        ((applySettings room options entries).1,
          fault.message :: (applySettings room options entries).2) := by
  obtain ⟨name, value⟩ := entry
  cases name with
  | text word =>
      rw [applySettings_word]
      cases named : OptionName.ofWord? word with
      | none => simp only [Options.set, entrySetting, named]
      | some option =>
          simp only [Options.set, entrySetting, named]
          cases option.accept room value <;> rfl
  | _ => rfl

/-- Nothing is exhausted with an entry that is accepted. -/
theorem entryExhausts?_of_sets {entry : Value × Value} {set : OptionName × Setting}
    (sets : entrySetting room entry = .ok set) : entryExhausts? room entry = none := by
  obtain ⟨name, value⟩ := entry
  obtain ⟨rfl, accepts⟩ := entrySetting_eq_ok sets
  simp only [entryExhausts?, OptionName.ofWord?_word, accepts]

theorem tellable_eq_self {entries : List (Value × Value)}
    (told : entries.findSome? (entryExhausts? room) = none) : tellable room entries = entries := by
  rw [tellable, List.takeWhile_eq_self_iff]
  intro entry member
  rw [List.findSome?_eq_none_iff.mp told entry member]
  rfl

theorem told_perm {entries others : List (Value × Value)} (permuted : entries.Perm others)
    (told : entries.findSome? (entryExhausts? room) = none) :
    others.findSome? (entryExhausts? room) = none := by
  rw [List.findSome?_eq_none_iff] at told ⊢
  exact fun entry member => told entry (permuted.mem_iff.mpr member)

variable (room)

/-- Each refused entry is one problem, in the order of the entries. -/
theorem applySettings_problems (options : Options) (entries : List (Value × Value)) :
    (applySettings room options entries).2 = entries.filterMap (refusal? room) := by
  induction entries generalizing options with
  | nil => rfl
  | cons entry entries inductionHypothesis =>
      rw [applySettings_cons, List.filterMap_cons, refusal?]
      cases entrySetting room entry with
      | error fault => exact congrArg (fault.message :: ·) (inductionHypothesis options)
      | ok set => exact inductionHypothesis (options.setOption set.1 set.2)

/-- An option is settled by the entry for it, and by no other one. -/
theorem applySettings_option {entries : List (Value × Value)} (isMapping : IsMapping entries)
    (options : Options) (option : OptionName) :
    match option.accepted? room (valueOf? entries option.word) with
    | some setting =>
      (applySettings room options entries).1.settings option = setting ∧
        option ∈ (applySettings room options entries).1.given
    | none =>
      (applySettings room options entries).1.settings option = options.settings option ∧
        (option ∈ (applySettings room options entries).1.given ↔ option ∈ options.given) := by
  induction entries generalizing options with
  | nil => exact ⟨rfl, Iff.rfl⟩
  | cons entry entries inductionHypothesis =>
      obtain ⟨name, value⟩ := entry
      rw [applySettings_cons, valueOf?_cons]
      by_cases forOption : Yaml.isSameKey name (.text option.word) = true
      · obtain rfl := Yaml.isSameKey_text.mp forOption
        have rest := fun options => inductionHypothesis isMapping.tail options
        rw [isMapping.valueOf?_tail] at rest
        rw [if_pos forOption, entrySetting_word, OptionName.accepted?, Option.bind_some]
        cases option.accept room value with
        | error fault => exact rest options
        | ok setting =>
            obtain ⟨sameSetting, sameGiven⟩ := rest (options.setOption option setting)
            refine ⟨sameSetting.trans (if_pos rfl), sameGiven.mpr ?_⟩
            exact List.mem_insert_self
      · rw [if_neg forOption]
        cases sets : entrySetting room (name, value) with
        | error fault => exact inductionHypothesis isMapping.tail options
        | ok set =>
            obtain ⟨other, setting⟩ := set
            have different : option ≠ other := by
              rintro rfl
              exact forOption (Yaml.isSameKey_text.mpr (entrySetting_eq_ok sets).1)
            have rest := inductionHypothesis isMapping.tail (options.setOption other setting)
            have sameSetting : (options.setOption other setting).settings option =
                options.settings option := if_neg different
            have sameGiven : option ∈ (options.setOption other setting).given ↔
                option ∈ options.given := by
              rw [Options.setOption, List.mem_insert_iff, or_iff_right different]
            rw [sameSetting, sameGiven] at rest
            exact rest

/-- Every option is settled by the uppermost entry for it, and set just if that is accepted. -/
theorem applySettings_layers {given layer : List (Value × Value)} (isMapping : IsMapping given)
    (layerMapping : IsMapping layer) (option : OptionName) :
    let settled := (applySettings room .initial (mergeValues layer given)).1
    settled.settings option =
        option.settled room (valueOf? given option.word) (valueOf? layer option.word) ∧
      (settled.isSet option.word ↔ (option.accepted? room
        ((valueOf? given option.word).or (valueOf? layer option.word))).isSome) := by
  intro settled
  have byEntry :=
    applySettings_option room (mergeValues_isMapping layerMapping given) .initial option
  rw [valueOf?_mergeValues isMapping] at byEntry
  rw [OptionName.settled_eq, Options.isSet, OptionName.ofWord?_word, List.contains_iff_mem]
  cases accepted : option.accepted? room ((valueOf? given option.word).or
      (valueOf? layer option.word)) with
  | some setting =>
      rw [accepted] at byEntry
      exact ⟨byEntry.1, iff_of_true byEntry.2 rfl⟩
  | none =>
      rw [accepted] at byEntry
      exact ⟨byEntry.1, iff_of_false (fun member => nomatch byEntry.2.mp member) nofun⟩

/-- Settings do not depend on the order of the entries, and the problems are the same in another
order. -/
theorem applySettings_perm {given layer given' layer' : List (Value × Value)}
    (isMapping : IsMapping given) (layerMapping : IsMapping layer)
    (permuted : given.Perm given') (layerPermuted : layer.Perm layer') :
    let settled := applySettings room .initial (mergeValues layer given)
    let settled' := applySettings room .initial (mergeValues layer' given')
    settled'.1.settings = settled.1.settings ∧
      (∀ name, settled'.1.isSet name = settled.1.isSet name) ∧ settled.2.Perm settled'.2 := by
  have each := applySettings_layers room isMapping layerMapping
  have each' :=
    applySettings_layers room (isMapping.perm permuted) (layerMapping.perm layerPermuted)
  simp only [isMapping.valueOf?_perm permuted, layerMapping.valueOf?_perm layerPermuted] at each'
  refine ⟨funext fun option => (each' option).1.trans (each option).1.symm, fun name => ?_, ?_⟩
  · cases named : OptionName.ofWord? name with
    | none => simp only [Options.isSet, named]
    | some option =>
        obtain rfl := OptionName.ofWord?_eq_some_iff.mp named
        exact Bool.eq_iff_iff.mpr ((each' option).2.trans (each option).2.symm)
  · rw [applySettings_problems, applySettings_problems]
    exact (mergeValues_perm layerMapping isMapping layerPermuted permuted).filterMap (refusal? room)

end Application

end ApiDocs
