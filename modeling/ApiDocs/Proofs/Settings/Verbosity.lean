import ApiDocs.Proofs.Settings.Layers

/-!
# Settings of the verbosity

Two options say where messages go and which of them are written.  Entries that set one of these two
are told apart from all others: without them the same settings are made, apart from the two, and the
same problems are found.
-/

namespace ApiDocs

/-- Whether an option only says which messages are written. -/
def OptionName.isVerbosity : OptionName → Bool
  | logger => true
  | logLevel => true
  | _ => false

namespace Options

/-- The options with the defaults of those two that say which messages are written. -/
def withoutVerbosity (options : Options) : Options where
  settings option := if option.isVerbosity then option.default else options.settings option
  given := options.given.filter fun option => !option.isVerbosity

/-- Options that differ at most in which messages are written. -/
def SameButVerbosity (first second : Options) : Prop :=
  first.withoutVerbosity = second.withoutVerbosity

variable {first second : Options}

theorem sameButVerbosity_iff :
    SameButVerbosity first second ↔
      (∀ option : OptionName, option.isVerbosity = false →
        second.settings option = first.settings option) ∧
        (second.given.filter fun option => !option.isVerbosity) =
          first.given.filter fun option => !option.isVerbosity := by
  rw [SameButVerbosity, withoutVerbosity, withoutVerbosity, Options.mk.injEq, funext_iff]
  refine and_congr (forall_congr' fun option => ?_) eq_comm
  cases option.isVerbosity with
  | true => exact iff_of_true rfl nofun
  | false => exact ⟨fun same _ => same.symm, fun same => (same rfl).symm⟩

theorem SameButVerbosity.settings (same : SameButVerbosity first second) {option : OptionName}
    (isOther : option.isVerbosity = false) :
    second.settings option = first.settings option :=
  (sameButVerbosity_iff.mp same).1 option isOther

theorem SameButVerbosity.textOf (same : SameButVerbosity first second) {option : OptionName}
    (isOther : option.isVerbosity = false) : second.textOf option = first.textOf option := by
  rw [Options.textOf, same.settings isOther, Options.textOf]

theorem SameButVerbosity.textsOf (same : SameButVerbosity first second) {option : OptionName}
    (isOther : option.isVerbosity = false) : second.textsOf option = first.textsOf option := by
  rw [Options.textsOf, same.settings isOther, Options.textsOf]

theorem SameButVerbosity.switchOf (same : SameButVerbosity first second) {option : OptionName}
    (isOther : option.isVerbosity = false) : second.switchOf option = first.switchOf option := by
  rw [Options.switchOf, same.settings isOther, Options.switchOf]

theorem settings_setOption_self (options : Options) (option : OptionName) (setting : Setting) :
    (options.setOption option setting).settings option = setting :=
  if_pos rfl

theorem settings_setOption_of_ne (options : Options) {option other : OptionName}
    (setting : Setting) (different : other ≠ option) :
    (options.setOption option setting).settings other = options.settings other :=
  if_neg different

/-- One of the two options makes no other difference. -/
theorem setOption_sameButVerbosity {option : OptionName} (isVerbosity : option.isVerbosity = true)
    (options : Options) (setting : Setting) :
    (options.setOption option setting).SameButVerbosity options := by
  refine sameButVerbosity_iff.mpr ⟨fun other isOther => ?_, ?_⟩
  · refine (settings_setOption_of_ne options setting ?_).symm
    rintro rfl
    rw [isVerbosity] at isOther
    cases isOther
  · rw [setOption, List.insert]
    split
    · rfl
    · exact (List.filter_cons_of_neg (by rw [isVerbosity]; decide)).symm

/-- Any other option makes the same difference. -/
theorem SameButVerbosity.setOption (same : SameButVerbosity first second) {option : OptionName}
    (isOther : option.isVerbosity = false) (setting : Setting) :
    (first.setOption option setting).SameButVerbosity (second.setOption option setting) := by
  obtain ⟨settings, given⟩ := sameButVerbosity_iff.mp same
  refine sameButVerbosity_iff.mpr ⟨fun other otherToo => ?_, ?_⟩
  · by_cases isOption : other = option
    · rw [isOption, settings_setOption_self, settings_setOption_self]
    · rw [settings_setOption_of_ne second setting isOption,
        settings_setOption_of_ne first setting isOption, settings other otherToo]
  · have inserted (options : Options) :
        (options.given.insert option).filter (fun option => !option.isVerbosity) =
          (options.given.filter fun option => !option.isVerbosity).insert option := by
      have stays : option ∈ (options.given.filter fun option => !option.isVerbosity) ↔
          option ∈ options.given := by
        rw [List.mem_filter, isOther]
        exact and_iff_left rfl
      simp only [List.insert, List.elem_eq_mem, stays]
      split
      · rfl
      · exact List.filter_cons_of_pos (by rw [isOther]; rfl)
    rw [Options.setOption, Options.setOption, inserted, inserted, given]

end Options

/-- Whether an entry only settles which messages are written.  One that is refused is a problem
instead. -/
def setsVerbosity (room : Nat) (entry : Value × Value) : Bool :=
  match entrySetting room entry with
  | .ok (option, _) => option.isVerbosity
  | .error _ => false

/-- The entries that have to do with more than which messages are written: those for other options,
and those that are refused, each of which is an error. -/
def decisive (room : Nat) (entries : List (Value × Value)) : List (Value × Value) :=
  entries.filter fun entry => !setsVerbosity room entry

/-- Whether a key is the name of one of the two options. -/
def namesVerbosity : Value → Bool
  | .text word => (OptionName.ofWord? word).any OptionName.isVerbosity
  | _ => false

/-- An entry is refused only if it is not for one of the two options. -/
def Settles (room : Nat) (entry : Value × Value) : Prop :=
  namesVerbosity entry.1 = true → refusal? room entry = none

variable {room : Nat}

theorem setsVerbosity_eq {entry : Value × Value} (settles : Settles room entry) :
    setsVerbosity room entry = namesVerbosity entry.1 := by
  obtain ⟨name, value⟩ := entry
  rw [Settles, refusal?] at settles
  rw [setsVerbosity]
  cases sets : entrySetting room (name, value) with
  | ok set =>
      obtain ⟨rfl, _⟩ := entrySetting_eq_ok sets
      rw [namesVerbosity, OptionName.ofWord?_word]
      rfl
  | error fault =>
      rw [sets] at settles
      refine (Bool.eq_false_iff.mpr fun named => ?_).symm
      cases settles named

theorem decisive_eq {entries : List (Value × Value)}
    (settle : ∀ entry ∈ entries, Settles room entry) :
    decisive room entries = entries.filter fun entry => !namesVerbosity entry.1 :=
  List.filter_congr fun entry member => by rw [setsVerbosity_eq (settle entry member)]

/-- The same key names one of the two options or does not. -/
theorem namesVerbosity_eq {key other : Value} (same : Yaml.isSameKey key other = true) :
    namesVerbosity key = namesVerbosity other ∧ (namesVerbosity key = true → key = other) := by
  cases other with
  | text word =>
      obtain rfl := Yaml.isSameKey_text.mp same
      exact ⟨rfl, fun _ => rfl⟩
  | _ =>
      cases key with
      | text word => cases Yaml.isSameKey_text.mp (Yaml.isSameKey_symm same)
      | _ => exact ⟨rfl, nofun⟩

theorem settles_insertPair {pairs : List (Value × Value)} {key value : Value}
    (settle : ∀ entry ∈ pairs, Settles room entry) (settles : Settles room (key, value)) :
    ∀ entry ∈ Yaml.insertPair pairs key value, Settles room entry := by
  induction pairs with
  | nil =>
      intro entry member
      rw [Yaml.insertPair, List.mem_singleton] at member
      exact member ▸ settles
  | cons head tail inductionHypothesis =>
      rw [List.forall_mem_cons] at settle
      rw [Yaml.insertPair]
      split
      · next same =>
          refine List.forall_mem_cons.mpr ⟨fun named => ?_, settle.2⟩
          obtain ⟨sameNames, sameKey⟩ := namesVerbosity_eq same
          rw [sameKey named]
          exact settles (sameNames.symm.trans named)
      · exact List.forall_mem_cons.mpr ⟨settle.1, inductionHypothesis settle.2⟩

theorem filter_insertPair (pairs : List (Value × Value)) (key value : Value) :
    (Yaml.insertPair pairs key value).filter (fun entry => !namesVerbosity entry.1) =
      if namesVerbosity key then pairs.filter fun entry => !namesVerbosity entry.1
      else Yaml.insertPair (pairs.filter fun entry => !namesVerbosity entry.1) key value := by
  induction pairs with
  | nil =>
      rw [Yaml.insertPair, List.filter_cons]
      cases namesVerbosity key <;> rfl
  | cons head tail inductionHypothesis =>
      rw [Yaml.insertPair]
      split
      · next same =>
          rw [List.filter_cons, List.filter_cons, (namesVerbosity_eq same).1]
          cases namesVerbosity key with
          | true => rfl
          | false => exact (if_pos same).symm
      · next different =>
          rw [List.filter_cons, List.filter_cons, inductionHypothesis]
          cases namesVerbosity head.1 with
          | true => rfl
          | false =>
              cases namesVerbosity key with
              | true => rfl
              | false => exact (if_neg different).symm

namespace Application

theorem settles_mergeValues {values others : List (Value × Value)}
    (settle : ∀ entry ∈ values, Settles room entry)
    (settleOthers : ∀ entry ∈ others, Settles room entry) :
    ∀ entry ∈ mergeValues values others, Settles room entry := by
  induction others generalizing values with
  | nil => exact settle
  | cons pair others inductionHypothesis =>
      rw [List.forall_mem_cons] at settleOthers
      exact inductionHypothesis (settles_insertPair settle settleOthers.1) settleOthers.2

theorem filter_mergeValues (values others : List (Value × Value)) :
    (mergeValues values others).filter (fun entry => !namesVerbosity entry.1) =
      mergeValues (values.filter fun entry => !namesVerbosity entry.1)
        (others.filter fun entry => !namesVerbosity entry.1) := by
  induction others generalizing values with
  | nil => rfl
  | cons pair others inductionHypothesis =>
      rw [mergeValues_cons, inductionHypothesis, filter_insertPair, List.filter_cons]
      cases namesVerbosity pair.1 <;> rfl

/-- Where no entry for the two options is refused, only the others are decisive. -/
theorem decisive_mergeValues {values others : List (Value × Value)}
    (settle : ∀ entry ∈ values, Settles room entry)
    (settleOthers : ∀ entry ∈ others, Settles room entry) :
    decisive room (mergeValues values others) =
      mergeValues (values.filter fun entry => !namesVerbosity entry.1)
        (others.filter fun entry => !namesVerbosity entry.1) := by
  rw [decisive_eq (settles_mergeValues settle settleOthers), filter_mergeValues]

/-- Nothing is exhausted with an entry that only settles which messages are written. -/
theorem entryExhausts?_of_setsVerbosity {entry : Value × Value}
    (isVerbosity : setsVerbosity room entry = true) : entryExhausts? room entry = none := by
  rw [setsVerbosity] at isVerbosity
  split at isVerbosity
  · next sets => exact entryExhausts?_of_sets sets
  · cases isVerbosity

theorem findSome?_decisive (entries : List (Value × Value)) :
    (decisive room entries).findSome? (entryExhausts? room) =
      entries.findSome? (entryExhausts? room) := by
  induction entries with
  | nil => rfl
  | cons entry entries inductionHypothesis =>
      cases isVerbosity : setsVerbosity room entry with
      | true =>
          rw [decisive, List.filter_cons_of_neg (by rw [isVerbosity]; decide),
            List.findSome?_cons, entryExhausts?_of_setsVerbosity isVerbosity]
          exact inductionHypothesis
      | false =>
          rw [decisive, List.filter_cons_of_pos (by rw [isVerbosity]; rfl), List.findSome?_cons,
            List.findSome?_cons]
          cases entryExhausts? room entry with
          | none => exact inductionHypothesis
          | some exhaustion => rfl

/-- Entries for the two options do not end a preparation. -/
theorem findSome?_of_decisive {entries others : List (Value × Value)}
    (same : decisive room entries = decisive room others) :
    entries.findSome? (entryExhausts? room) = others.findSome? (entryExhausts? room) := by
  rw [← findSome?_decisive, same, findSome?_decisive]

/-- The entries before the first that something is exhausted with differ only in the same way. -/
theorem decisive_tellable (entries : List (Value × Value)) :
    decisive room (tellable room entries) = tellable room (decisive room entries) := by
  induction entries with
  | nil => rfl
  | cons entry entries inductionHypothesis =>
      cases isVerbosity : setsVerbosity room entry with
      | true =>
          have told := entryExhausts?_of_setsVerbosity isVerbosity
          have goes (entries : List (Value × Value)) :
              decisive room (entry :: entries) = decisive room entries :=
            List.filter_cons_of_neg (by rw [isVerbosity]; decide)
          rw [tellable, List.takeWhile_cons_of_pos (by rw [told]; rfl), goes, goes]
          exact inductionHypothesis
      | false =>
          have stays (entries : List (Value × Value)) :
              decisive room (entry :: entries) = entry :: decisive room entries :=
            List.filter_cons_of_pos (by rw [isVerbosity]; rfl)
          rw [stays, tellable, tellable, List.takeWhile_cons, List.takeWhile_cons]
          cases entryExhausts? room entry with
          | none => exact (stays _).trans (congrArg (entry :: ·) inductionHypothesis)
          | some exhaustion => rfl

/-- Entries for the two options make no other difference and no problem. -/
theorem applySettings_decisive (room : Nat) {first second : Options}
    (same : first.SameButVerbosity second) (entries : List (Value × Value)) :
    let applied := applySettings room first entries
    let applied' := applySettings room second (decisive room entries)
    applied.1.SameButVerbosity applied'.1 ∧ applied.2 = applied'.2 := by
  induction entries generalizing first second with
  | nil => exact ⟨same, rfl⟩
  | cons entry entries inductionHypothesis =>
      cases sets : entrySetting room entry with
      | error fault =>
          have stays : decisive room (entry :: entries) = entry :: decisive room entries :=
            List.filter_cons_of_pos (by simp only [setsVerbosity, sets]; rfl)
          obtain ⟨sameOptions, sameProblems⟩ := inductionHypothesis same
          rw [stays, applySettings_cons, applySettings_cons]
          simp only [sets]
          exact ⟨sameOptions, congrArg (fault.message :: ·) sameProblems⟩
      | ok set =>
          obtain ⟨option, setting⟩ := set
          have rest : applySettings room first (entry :: entries) = _ :=
            applySettings_cons first entry entries
          simp only [sets] at rest
          rw [rest]
          cases isVerbosity : option.isVerbosity with
          | true =>
              have goes : decisive room (entry :: entries) = decisive room entries :=
                List.filter_cons_of_neg (by simp only [setsVerbosity, sets, isVerbosity]; decide)
              rw [goes]
              exact inductionHypothesis
                ((Options.setOption_sameButVerbosity isVerbosity first setting).trans same)
          | false =>
              have stays : decisive room (entry :: entries) = entry :: decisive room entries :=
                List.filter_cons_of_pos (by simp only [setsVerbosity, sets, isVerbosity]; rfl)
              rw [stays, applySettings_cons]
              simp only [sets]
              exact inductionHypothesis (same.setOption isVerbosity setting)

/-- Where the entries differ only in which messages are written, so do the settings, and the
problems with them are the same. -/
theorem applySettings_sameButVerbosity {entries others : List (Value × Value)}
    (same : decisive room entries = decisive room others) (options : Options) :
    (applySettings room options entries).1.SameButVerbosity (applySettings room options others).1 ∧
      (applySettings room options entries).2 = (applySettings room options others).2 := by
  have first := applySettings_decisive room (Eq.refl options.withoutVerbosity) entries
  have second := applySettings_decisive room (Eq.refl options.withoutVerbosity) others
  rw [same] at first
  exact ⟨first.1.trans second.1.symm, first.2.trans second.2.symm⟩

end Application

end ApiDocs
