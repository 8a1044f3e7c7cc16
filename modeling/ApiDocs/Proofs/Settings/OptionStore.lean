import ApiDocs.Proofs.Settings.Memory

/-!
# A store of options over time

A caller sets options to values and lists of its own, takes snapshots, and changes its lists and
mappings as it likes.  Whatever the calls, the store holds settings of the right types, each call
does to it what it does to the options, and nothing that the caller has is part of it.
-/

namespace ApiDocs

/-- A store in a memory: its defaults, its settings, the options that have been set, and what the
caller has. -/
structure OptionStore where
  memory : Memory
  defaults : Nat
  settings : Nat
  given : List OptionName
  outside : Outside

/-- What a caller does: to the store, or to its own lists and mappings. -/
inductive Call where
  | set (name : String) (argument : Held)
  | setAll (mapping : Nat)
  | snapshot
  | reset
  | makeList (items : List Value)
  | makeMapping (entries : List (String × Held))
  | writeList (list : Nat) (items : List Value)
  | writeMapping (mapping : Nat) (entries : List (String × Held))

/-- A caller has all values, and the lists that it made or got. -/
def Outside.has (outside : Outside) : Held → Bool
  | .value _ => true
  | .list list => outside.lists.contains list

theorem Outside.mem_of_has {outside : Outside} {held : Held} {list : Nat}
    (has : outside.has held = true) (isList : held = .list list) : list ∈ outside.lists := by
  rw [isList] at has
  exact List.contains_iff_mem.mp has

namespace OptionStore

/-! ## Calls -/

/-- A caller can only use what it has. -/
def allows (store : OptionStore) : Call → Bool
  | .set _ argument => store.outside.has argument
  | .setAll mapping => store.outside.mappings.contains mapping
  | .makeMapping entries => entries.all fun entry => store.outside.has entry.2
  | .writeList list _ => store.outside.lists.contains list
  | .writeMapping mapping entries =>
    store.outside.mappings.contains mapping &&
      entries.all fun entry => store.outside.has entry.2
  | _ => true

/-- The argument is checked, and what it means is stored as a new object. -/
def set (store : OptionStore) (room : Nat) (name : String) (argument : Held) :
    OptionStore × Option OptionFault :=
  match OptionName.ofWord? name with
  | none => (store, some (.unknown name))
  | some option =>
    match option.accept room (store.memory.read argument) with
    | .error fault => (store, some fault)
    | .ok setting =>
      let (memory, held) := store.memory.hold setting
      ({ store with
          memory := memory.assign store.settings name held
          given := store.given.insert option }, none)

def setEntries (store : OptionStore) (room : Nat) :
    List (String × Held) → OptionStore × Option OptionFault
  | [] => (store, none)
  | (name, held) :: rest =>
    match store.set room name held with
    | (changed, none) => changed.setEntries room rest
    | (changed, some fault) => (changed, some fault)

/-- A new store beside the one so far, in whose place it is looked at. -/
def fresh (store : OptionStore) : OptionStore :=
  let (memory, settings) := store.memory.copy store.defaults
  { store with memory, settings, given := [] }

/-- The caller gets a copy of the settings. -/
def snapshot (store : OptionStore) : OptionStore :=
  let (memory, copied) := store.memory.copy store.settings
  { store with
    memory
    outside :=
      { lists := store.outside.lists ++ Memory.listsIn (memory.entries copied)
        mappings := store.outside.mappings ++ [copied] } }

def makeList (store : OptionStore) (items : List Value) : OptionStore :=
  { store with
    memory := (store.memory.addList items).1
    outside :=
      { store.outside with
        lists := store.outside.lists ++ [store.memory.lists.length] } }

def makeMapping (store : OptionStore) (entries : List (String × Held)) : OptionStore :=
  let (memory, made) := store.memory.addMapping entries
  { store with
    memory
    outside := { store.outside with mappings := store.outside.mappings ++ [made] } }

def step (store : OptionStore) (room : Nat) : Call → OptionStore × Option OptionFault
  | .set name argument => store.set room name argument
  | .setAll mapping => store.setEntries room (store.memory.entries mapping)
  | .snapshot => (store.snapshot, none)
  | .reset => (store.fresh, none)
  | .makeList items => (store.makeList items, none)
  | .makeMapping entries => (store.makeMapping entries, none)
  | .writeList list items =>
    ({ store with memory := store.memory.writeList list items }, none)
  | .writeMapping mapping entries =>
    ({ store with memory := store.memory.writeMapping mapping entries }, none)

/-- One call after the other; a refused one is over, and the next one follows. -/
def run (store : OptionStore) (room : Nat) : List Call → OptionStore
  | [] => store
  | call :: calls =>
    if store.allows call then (store.step room call).1.run room calls else store.run room calls

/-- The two lists of the defaults. -/
def defaultHeld : OptionName → Held
  | .inputFiles => .list 0
  | .plugins => .list 1
  | option => .value option.default.value

/-- A new store, with nothing else in the memory than the defaults. -/
def new : OptionStore :=
  fresh
    { memory :=
        { lists := [[], []]
          mappings := [OptionName.all.map fun option => (option.word, defaultHeld option)] }
      defaults := 0
      settings := 0
      given := []
      outside := { lists := [], mappings := [] } }

/-! ## What holds between calls -/

/-- The store holds the settings of the options. -/
structure Shows (store : OptionStore) (options : Options) : Prop where
  settings : store.memory.Owns store.outside store.settings options.settings
  given : store.given = options.given

/-- The store and the defaults are kept apart from each other and from what the caller has. -/
structure Sound (store : OptionStore) (options : Options) : Prop extends store.Shows options where
  defaults : store.memory.Owns store.outside store.defaults OptionName.default
  different : store.settings ≠ store.defaults
  surrounds : store.memory.Surrounds store.outside
  fits : ∀ option : OptionName, option.Fits (options.settings option)

/-- What a call does to the options. -/
def meaning (store : OptionStore) (room : Nat) (options : Options) :
    Call → Options × Option OptionFault
  | .set name argument =>
    match options.set room name (store.memory.read argument) with
    | .ok changed => (changed, none)
    | .error fault => (options, some fault)
  | .setAll mapping => options.setAll room (store.memory.readEntries mapping)
  | .reset => (Options.initial, none)
  | _ => (options, none)

/-- The options after calls that are made one after the other. -/
def after (store : OptionStore) (room : Nat) (options : Options) : List Call → Options
  | [] => options
  | call :: calls =>
    if store.allows call then
      (store.step room call).1.after room (store.meaning room options call).1 calls
    else store.after room options calls

section Sound

variable {store : OptionStore} {room : Nat} {options : Options}

theorem Sound.within (sound : store.Sound options) {held : Held}
    (has : store.outside.has held = true) : store.memory.Within held :=
  fun list isList => sound.surrounds.lists list (Outside.mem_of_has has isList)

/-! ## Setting -/

/-- What the caller has reads the same after an option has been set. -/
theorem set_read (sound : store.Sound options) (name : String) (argument : Held) {held : Held}
    (has : store.outside.has held = true) :
    (store.set room name argument).1.memory.read held = store.memory.read held := by
  rw [set]
  split
  · rfl
  · split
    · rfl
    · rename_i setting _
      have grows := store.memory.hold_grows setting
      have same := grows.read (sound.within has)
      cases held <;> exact same

theorem set_outside (store : OptionStore) (room : Nat) (name : String) (argument : Held) :
    (store.set room name argument).1.outside = store.outside := by
  rw [set]
  split
  · rfl
  · split <;> rfl

theorem set_sound (sound : store.Sound options) (room : Nat) (name : String) (argument : Held) :
    match options.set room name (store.memory.read argument) with
    | .ok changed =>
      (store.set room name argument).2 = none ∧ (store.set room name argument).1.Sound changed
    | .error fault => store.set room name argument = (store, some fault) := by
  rw [Options.set_eq]
  cases named : OptionName.ofWord? name with
  | none => simp only [entrySetting, set, named, Except.map]
  | some option =>
      obtain rfl := OptionName.ofWord?_eq_some_iff.mp named
      rw [entrySetting_word]
      cases accepts : option.accept room (store.memory.read argument) with
      | error fault => simp only [Except.map, set, named, accepts]
      | ok setting =>
          have grows := store.memory.hold_grows setting
          have owns := sound.settings.assign sound.surrounds option setting
          have keepsDefaults := (sound.defaults.grow grows (fun _ => Or.inl)
            (fun _ => Or.inl)).writeMapping sound.different
          simp only [Except.map, set, named, accepts]
          refine ⟨trivial, ⟨⟨owns, ?_⟩, keepsDefaults _, sound.different, ?_, ?_⟩⟩
          · exact congrArg (List.insert option) sound.given
          · obtain ⟨held, keeps⟩ := sound.settings
            exact (sound.surrounds.grow grows).writeMapping keeps.notOutside _
          · intro other
            rw [Options.settings_setOption]
            split
            · rename_i same
              rw [same]
              exact OptionName.fits_of_accept accepts
            · exact sound.fits other

theorem setEntries_sound (sound : store.Sound options) {entries : List (String × Held)}
    (has : ∀ entry ∈ entries, store.outside.has entry.2 = true) :
    let read := entries.map fun entry => (entry.1, store.memory.read entry.2)
    let result := options.setAll room read
    (store.setEntries room entries).2 = result.2 ∧
      (store.setEntries room entries).1.Sound result.1 := by
  induction entries generalizing store options with
  | nil => exact ⟨rfl, sound⟩
  | cons entry entries inductionHypothesis =>
      obtain ⟨name, held⟩ := entry
      obtain ⟨_, othersHas⟩ := List.forall_mem_cons.mp has
      have outcome := set_sound sound room name held
      simp only [List.map_cons, Options.setAll_cons, setEntries]
      cases isSet : options.set room name (store.memory.read held) with
      | error fault =>
          rw [isSet] at outcome
          simp only [outcome]
          exact ⟨trivial, sound⟩
      | ok changed =>
          rw [isSet] at outcome
          obtain ⟨noFault, changedSound⟩ := outcome
          have sameOutside := store.set_outside room name held
          -- the other arguments read as before the first of them was set
          have sameArguments : (entries.map fun entry =>
                (entry.1, (store.set room name held).1.memory.read entry.2)) =
              entries.map fun entry => (entry.1, store.memory.read entry.2) :=
            List.map_congr_left fun entry member => by
              rw [set_read sound name held (othersHas entry member)]
          rw [← sameOutside] at othersHas
          have rest := inductionHypothesis changedSound othersHas
          rw [sameArguments] at rest
          generalize store.set room name held = setting at *
          obtain ⟨next, fault?⟩ := setting
          obtain rfl : fault? = none := noFault
          exact rest

/-! ## Copies -/

/-- What gets outside besides what was there is new. -/
theorem mem_or_le_of_mem_concat {references : List Nat} {next : Nat} :
    ∀ reference ∈ references ++ [next], reference ∈ references ∨ next ≤ reference := by
  intro reference member
  exact (List.mem_append.mp member).imp_right fun isNext =>
    Nat.le_of_eq (List.mem_singleton.mp isNext).symm

/-- A new store has the defaults as its settings. -/
theorem fresh_sound
    (owns : store.memory.Owns store.outside store.defaults OptionName.default)
    (surrounds : store.memory.Surrounds store.outside) :
    store.fresh.Sound Options.initial := by
  obtain ⟨grown, copied, result, grows, keeps, _⟩ := owns.copy surrounds
  have inside : store.defaults < store.memory.mappings.length := owns.choose_spec.inside
  rw [fresh, result]
  exact
    { settings := ⟨copied, keeps⟩
      given := rfl
      defaults := owns.grow grows (fun _ => Or.inl) (fun _ => Or.inl)
      different := (Nat.ne_of_lt inside).symm
      surrounds := surrounds.grow grows
      fits := OptionName.fits_default }

/-- A snapshot reads as the settings, and the store is not part of it. -/
theorem snapshot_sound (sound : store.Sound options) :
    store.snapshot.Sound options ∧
      ∃ copied ∈ store.snapshot.outside.mappings,
        store.snapshot.memory.readEntries copied = options.snapshotValues := by
  obtain ⟨grown, copied, result, grows, keeps, isNew⟩ := sound.settings.copy sound.surrounds
  have ofList {list : Nat}
      (member : list ∈ Memory.listsIn (grown.entries store.memory.mappings.length)) :
      ∃ option, copied option = .list list := by
    rw [Memory.entries, keeps.entries, Option.getD_some, Memory.mem_listsIn] at member
    obtain ⟨entry, entryMember, isList⟩ := member
    obtain ⟨option, _, rfl⟩ := List.mem_map.mp entryMember
    exact ⟨option, isList⟩
  have newLists : ∀ list ∈ store.outside.lists ++
        Memory.listsIn (grown.entries store.memory.mappings.length),
      list ∈ store.outside.lists ∨ store.memory.lists.length ≤ list := by
    intro list member
    refine (List.mem_append.mp member).imp_right fun inCopy => ?_
    obtain ⟨option, isList⟩ := ofList inCopy
    exact isNew option list isList
  rw [snapshot, result]
  refine ⟨?_, store.memory.mappings.length, List.mem_append_right _ List.mem_cons_self, ?_⟩
  · exact
      { settings := sound.settings.grow grows newLists mem_or_le_of_mem_concat
        given := sound.given
        defaults := sound.defaults.grow grows newLists mem_or_le_of_mem_concat
        different := sound.different
        surrounds := by
          refine (sound.surrounds.grow grows).extend ?_ ?_ ?_
          · intro list member
            obtain ⟨option, isList⟩ := ofList member
            exact keeps.within option list isList
          · exact List.forall_mem_singleton.mpr keeps.inside
          · refine List.forall_mem_singleton.mpr fun entry member list isList => ?_
            exact List.mem_append_right _ (Memory.mem_listsIn.mpr ⟨entry, member, isList⟩)
        fits := sound.fits }
  · rw [Options.snapshotValues_eq]
    exact Memory.Owns.readEntries ⟨copied, keeps⟩

/-! ## What the caller does with its own objects -/

theorem makeList_sound (sound : store.Sound options) (items : List Value) :
    (store.makeList items).Sound options := by
  have grows := store.memory.addList_grows items
  have inside : store.memory.lists.length < (store.memory.addList items).1.lists.length := by
    rw [Memory.addList, List.length_append]
    exact Nat.lt_succ_self _
  have surrounds := (sound.surrounds.grow grows).extend
    (List.forall_mem_singleton.mpr inside) (List.forall_mem_nil _) (List.forall_mem_nil _)
  rw [List.append_nil] at surrounds
  exact
    { settings := sound.settings.grow grows mem_or_le_of_mem_concat fun _ => Or.inl
      given := sound.given
      defaults := sound.defaults.grow grows mem_or_le_of_mem_concat fun _ => Or.inl
      different := sound.different
      surrounds
      fits := sound.fits }

theorem makeMapping_sound (sound : store.Sound options) {entries : List (String × Held)}
    (has : ∀ entry ∈ entries, store.outside.has entry.2 = true) :
    (store.makeMapping entries).Sound options := by
  have grows := store.memory.addMapping_grows entries
  have made : (store.memory.addMapping entries).1.mappings[store.memory.mappings.length]? =
      some entries := by
    rw [Memory.addMapping, List.getElem?_concat_length]
  have surrounds := (sound.surrounds.grow grows).extend (List.forall_mem_nil _)
    (List.forall_mem_singleton.mpr (List.getElem?_eq_some_iff.mp made).1)
    (List.forall_mem_singleton.mpr fun entry member list isList => by
      rw [Memory.entries, made, Option.getD_some] at member
      rw [List.append_nil]
      exact Outside.mem_of_has (has entry member) isList)
  rw [List.append_nil] at surrounds
  exact
    { settings := sound.settings.grow grows (fun _ => Or.inl) mem_or_le_of_mem_concat
      given := sound.given
      defaults := sound.defaults.grow grows (fun _ => Or.inl) mem_or_le_of_mem_concat
      different := sound.different
      surrounds
      fits := sound.fits }

theorem writeList_sound (sound : store.Sound options) {list : Nat}
    (member : list ∈ store.outside.lists) (items : List Value) :
    Sound { store with memory := store.memory.writeList list items } options where
  settings := sound.settings.writeList member items
  given := sound.given
  defaults := sound.defaults.writeList member items
  different := sound.different
  surrounds := sound.surrounds.frame (Nat.le_of_eq (List.length_set ..).symm) (Nat.le_refl _)
    fun _ _ => rfl
  fits := sound.fits

theorem writeMapping_sound (sound : store.Sound options) {mapping : Nat}
    (member : mapping ∈ store.outside.mappings) {entries : List (String × Held)}
    (has : ∀ entry ∈ entries, store.outside.has entry.2 = true) :
    Sound { store with memory := store.memory.writeMapping mapping entries } options where
  settings := sound.settings.writeMapping (sound.settings.ne_of_mem member) entries
  given := sound.given
  defaults := sound.defaults.writeMapping (sound.defaults.ne_of_mem member) entries
  different := sound.different
  surrounds := sound.surrounds.overwrite fun entry entryMember _ isList =>
    Outside.mem_of_has (has entry entryMember) isList
  fits := sound.fits

/-! ## All calls -/

/-- A call does to the store what it does to the options. -/
theorem step_sound (sound : store.Sound options) {call : Call}
    (allowed : store.allows call = true) :
    (store.step room call).2 = (store.meaning room options call).2 ∧
      (store.step room call).1.Sound (store.meaning room options call).1 := by
  cases call with
  | set name argument =>
      have outcome := set_sound sound room name argument
      simp only [step, meaning]
      cases isSet : options.set room name (store.memory.read argument) with
      | error fault =>
          rw [isSet] at outcome
          rw [outcome]
          exact ⟨rfl, sound⟩
      | ok changed =>
          rw [isSet] at outcome
          exact outcome
  | setAll mapping =>
      have isOutside : mapping ∈ store.outside.mappings := List.contains_iff_mem.mp allowed
      refine setEntries_sound sound fun entry member => ?_
      cases isList : entry.2 with
      | value value => rfl
      | list list =>
          exact List.contains_iff_mem.mpr
            (sound.surrounds.entries mapping isOutside entry member list isList)
  | snapshot => exact ⟨rfl, (snapshot_sound sound).1⟩
  | reset => exact ⟨rfl, fresh_sound sound.defaults sound.surrounds⟩
  | makeList items => exact ⟨rfl, makeList_sound sound items⟩
  | makeMapping entries => exact ⟨rfl, makeMapping_sound sound (List.all_eq_true.mp allowed)⟩
  | writeList list items =>
      exact ⟨rfl, writeList_sound sound (List.contains_iff_mem.mp allowed) items⟩
  | writeMapping mapping entries =>
      obtain ⟨isOutside, has⟩ := Bool.and_eq_true_iff.mp allowed
      exact ⟨rfl, writeMapping_sound sound (List.contains_iff_mem.mp isOutside)
        (List.all_eq_true.mp has)⟩

theorem run_sound (sound : store.Sound options) (room : Nat) (calls : List Call) :
    (store.run room calls).Sound (store.after room options calls) := by
  induction calls generalizing store options with
  | nil => exact sound
  | cons call calls inductionHypothesis =>
      rw [run, after]
      split
      · rename_i allowed
        exact inductionHypothesis (step_sound sound allowed).2
      · exact inductionHypothesis sound

end Sound

theorem new_sound : new.Sound Options.initial := by
  have isDefault (option : OptionName) (list : Nat) (isList : defaultHeld option = .list list) :
      option = .inputFiles ∧ list = 0 ∨ option = .plugins ∧ list = 1 := by
    cases option <;> cases isList
    · exact Or.inl ⟨rfl, rfl⟩
    · exact Or.inr ⟨rfl, rfl⟩
  refine fresh_sound ⟨defaultHeld, rfl, ?_, ?_, ?_, List.not_mem_nil, fun _ _ _ => List.not_mem_nil⟩
    ⟨List.forall_mem_nil _, List.forall_mem_nil _, List.forall_mem_nil _⟩
  · intro option
    cases option <;> rfl
  · intro option list isList
    rcases isDefault option list isList with ⟨_, rfl⟩ | ⟨_, rfl⟩ <;> decide
  · intro option other list isList otherList
    rcases isDefault option list isList with ⟨rfl, rfl⟩ | ⟨rfl, rfl⟩ <;>
      rcases isDefault other _ otherList with ⟨rfl, same⟩ | ⟨rfl, same⟩
    · rfl
    · cases same
    · cases same
    · rfl

/-! ## Any history -/

/-- What a caller can rely on: the settings are typed, calls do what they mean and nothing else,
many settings are kept up to the first refused one, and a snapshot makes a new store the same. -/
structure Reliable (store : OptionStore) (room : Nat) (options : Options) : Prop where
  isShown : store.Shows options
  typed : ∀ option : OptionName, option.Fits (options.settings option)
  calls : ∀ call, store.allows call = true →
    (store.step room call).2 = (store.meaning room options call).2 ∧
      (store.step room call).1.Shows (store.meaning room options call).1
  keeps : ∀ entries, ∃ kept rest, entries = kept ++ rest ∧
    (∃ settings, List.Forall₂ (Options.Sets room) kept settings ∧
      (options.setAll room entries).1 =
        settings.foldl (fun options set => options.setOption set.1 set.2) options) ∧
    match (options.setAll room entries).2 with
    | none => rest = []
    | some fault => ∃ refused later, rest = refused :: later ∧
        options.set room refused.1 refused.2 = .error fault
  snapshots : ∃ copied ∈ store.snapshot.outside.mappings,
    store.snapshot.memory.readEntries copied = options.snapshotValues ∧
    (store.snapshot.fresh.step room (.setAll copied)).2 = none ∧
    ∃ again, (store.snapshot.fresh.step room (.setAll copied)).1.Shows again ∧
      again.settings = options.settings

/-- A snapshot is accepted by a new store, whose settings are then those of the snapshot. -/
theorem snapshot_again {store : OptionStore} {options : Options} (sound : store.Sound options)
    (room : Nat) :
    ∃ copied ∈ store.snapshot.outside.mappings,
      store.snapshot.memory.readEntries copied = options.snapshotValues ∧
      (store.snapshot.fresh.step room (.setAll copied)).2 = none ∧
      ∃ again, (store.snapshot.fresh.step room (.setAll copied)).1.Shows again ∧
        again.settings = options.settings := by
  obtain ⟨taken, copied, isOutside, reads⟩ := snapshot_sound sound
  obtain ⟨accepted, same⟩ := Options.setAll_snapshotValues room sound.fits Options.initial
  have renewed := fresh_sound taken.defaults taken.surrounds
  obtain ⟨grown, _, result, grows, _⟩ := taken.defaults.copy taken.surrounds
  have sameOutside : store.snapshot.fresh.outside = store.snapshot.outside := by
    rw [fresh, result]
  have sameReads : store.snapshot.fresh.memory.readEntries copied =
      store.snapshot.memory.readEntries copied := by
    rw [fresh, result]
    exact taken.surrounds.readEntries grows isOutside
  have allowed : store.snapshot.fresh.allows (.setAll copied) = true := by
    rw [allows, sameOutside]
    exact List.contains_iff_mem.mpr isOutside
  obtain ⟨outcome, changed⟩ := step_sound renewed allowed
  rw [meaning, sameReads, reads] at outcome changed
  exact ⟨copied, isOutside, reads, outcome.trans accepted, _, changed.toShows, same⟩

/-- After any calls, the settings of a store are typed, are those that the calls mean, and are not
changed by what the caller does with its snapshots and lists. -/
theorem options_stay_typed_and_unshared (room : Nat) (calls : List Call) :
    (new.run room calls).Reliable room (new.after room Options.initial calls) := by
  have sound := run_sound new_sound room calls
  exact
    { isShown := sound.toShows
      typed := sound.fits
      calls := fun call allowed =>
        (step_sound sound allowed).imp_right Sound.toShows
      keeps := Options.setAll_keeps room _
      snapshots := snapshot_again sound room }

/-- A list that was passed in can be emptied, and the setting stays. -/
example :
    (new.after 0 Options.initial
      [ .makeList [.text "a", .integer 1],
        .set "plugins" (.list 4),
        .writeList 4 [],
        .set "plugins" (.value (.integer 3)) ]).settings .plugins = .texts ["a", "1"] := by
  decide +kernel

end OptionStore

end ApiDocs
