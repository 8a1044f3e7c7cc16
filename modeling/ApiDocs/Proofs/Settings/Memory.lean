import ApiDocs.Proofs.Settings.Typed

/-!
# Settings in a memory

A store of options is a mapping in a memory, whose lists are objects of that memory too, and so are
the lists and mappings that a caller gives and gets.  A mapping of settings is owned as long as the
caller has neither it nor a list in it; then nothing that the caller changes changes a setting.
-/

namespace ApiDocs

/-- What a mapping holds under a name: a value that never changes, or a list of the memory. -/
inductive Held where
  | value (value : Value)
  | list (reference : Nat)

/-- The lists and the mappings that there are, each at its reference. -/
structure Memory where
  lists : List (List Value)
  mappings : List (List (String × Held))

/-- The lists and mappings that the caller has. -/
structure Outside where
  lists : List Nat
  mappings : List Nat

namespace Memory

def read (memory : Memory) : Held → Value
  | .value value => value
  | .list reference => .list (memory.lists[reference]?.getD [])

def entries (memory : Memory) (reference : Nat) : List (String × Held) :=
  memory.mappings[reference]?.getD []

def readEntries (memory : Memory) (reference : Nat) : List (String × Value) :=
  (memory.entries reference).map fun entry => (entry.1, memory.read entry.2)

/-- The lists that a mapping holds. -/
def listsIn (entries : List (String × Held)) : List Nat :=
  entries.filterMap fun entry =>
    match entry.2 with
    | .list list => some list
    | .value _ => none

theorem mem_listsIn {entries : List (String × Held)} {list : Nat} :
    list ∈ listsIn entries ↔ ∃ entry ∈ entries, entry.2 = .list list := by
  rw [listsIn, List.mem_filterMap]
  refine exists_congr fun entry => and_congr_right fun _ => ?_
  cases entry.2 <;> simp

/-! ## Making and changing objects -/

def addList (memory : Memory) (items : List Value) : Memory × Held :=
  ({ memory with lists := memory.lists ++ [items] }, .list memory.lists.length)

def addMapping (memory : Memory) (entries : List (String × Held)) : Memory × Nat :=
  ({ memory with mappings := memory.mappings ++ [entries] }, memory.mappings.length)

def writeList (memory : Memory) (reference : Nat) (items : List Value) : Memory :=
  { memory with lists := memory.lists.set reference items }

def writeMapping (memory : Memory) (reference : Nat) (entries : List (String × Held)) : Memory :=
  { memory with mappings := memory.mappings.set reference entries }

/-- A name of a mapping gets another value; a new name comes last. -/
def assign (memory : Memory) (reference : Nat) (name : String) (held : Held) : Memory :=
  let entries := memory.entries reference
  memory.writeMapping reference
    (if name ∈ entries.map Prod.fst then
      entries.map fun entry => if entry.1 = name then (name, held) else entry
    else entries ++ [(name, held)])

/-- A setting as it is stored; a list of texts is a list of its own. -/
def hold (memory : Memory) : Setting → Memory × Held
  | .texts values => memory.addList (values.map Value.text)
  | setting => (memory, .value setting.value)

/-- A list is copied, any other value is the same in the copy. -/
def copyHeld (memory : Memory) : Held → Memory × Held
  | .value value => (memory, .value value)
  | .list reference => memory.addList (memory.lists[reference]?.getD [])

def copyEntries (memory : Memory) : List (String × Held) → Memory × List (String × Held)
  | [] => (memory, [])
  | (name, held) :: rest =>
    let (memory, copied) := memory.copyHeld held
    let (memory, others) := memory.copyEntries rest
    (memory, (name, copied) :: others)

/-- A mapping is copied together with its lists, none of which it holds twice. -/
def copy (memory : Memory) (reference : Nat) : Memory × Nat :=
  let (memory, copied) := memory.copyEntries (memory.entries reference)
  memory.addMapping copied

/-! ## Growing -/

/-- Nothing in the memory has changed, but there may be more of it. -/
structure Grows (memory grown : Memory) : Prop where
  lists : memory.lists <+: grown.lists
  mappings : memory.mappings <+: grown.mappings

/-- A list stands in the memory. -/
def Within (memory : Memory) (held : Held) : Prop :=
  ∀ reference, held = .list reference → reference < memory.lists.length

theorem Grows.refl (memory : Memory) : memory.Grows memory :=
  ⟨List.prefix_rfl, List.prefix_rfl⟩

theorem Grows.trans {memory grown further : Memory} (grows : memory.Grows grown)
    (goesOn : grown.Grows further) : memory.Grows further :=
  ⟨grows.lists.trans goesOn.lists, grows.mappings.trans goesOn.mappings⟩

theorem addList_grows (memory : Memory) (items : List Value) :
    memory.Grows (memory.addList items).1 :=
  ⟨List.prefix_append _ _, List.prefix_rfl⟩

theorem addMapping_grows (memory : Memory) (entries : List (String × Held)) :
    memory.Grows (memory.addMapping entries).1 :=
  ⟨List.prefix_rfl, List.prefix_append _ _⟩

theorem hold_grows (memory : Memory) (setting : Setting) :
    memory.Grows (memory.hold setting).1 := by
  cases setting with
  | texts values => exact memory.addList_grows _
  | _ => exact .refl memory

theorem copyHeld_grows (memory : Memory) (held : Held) :
    memory.Grows (memory.copyHeld held).1 := by
  cases held with
  | value value => exact .refl memory
  | list reference => exact memory.addList_grows _

section Grows

variable {memory grown : Memory} (grows : memory.Grows grown)
include grows

theorem Grows.getElem?_lists {reference : Nat} (inside : reference < memory.lists.length) :
    grown.lists[reference]? = memory.lists[reference]? := by
  obtain ⟨more, split⟩ := grows.lists
  rw [← split, List.getElem?_append_left inside]

theorem Grows.getElem?_mappings {reference : Nat} (inside : reference < memory.mappings.length) :
    grown.mappings[reference]? = memory.mappings[reference]? := by
  obtain ⟨more, split⟩ := grows.mappings
  rw [← split, List.getElem?_append_left inside]

theorem Grows.read {held : Held} (within : memory.Within held) :
    grown.read held = memory.read held := by
  cases held with
  | value value => rfl
  | list reference => rw [Memory.read, Memory.read, grows.getElem?_lists (within reference rfl)]

theorem Grows.within {held : Held} (within : memory.Within held) : grown.Within held :=
  fun reference isList => Nat.lt_of_lt_of_le (within reference isList) grows.lists.length_le

end Grows

/-! ## Owned settings -/

/-- A mapping holds the settings of all options, each list of which is its own. -/
structure Keeps (memory : Memory) (outside : Outside) (reference : Nat)
    (settings : OptionName → Setting) (held : OptionName → Held) : Prop where
  entries : memory.mappings[reference]? =
    some (OptionName.all.map fun option => (option.word, held option))
  reads : ∀ option, memory.read (held option) = (settings option).value
  within : ∀ option, memory.Within (held option)
  distinct : ∀ option other list, held option = .list list → held other = .list list →
    option = other
  notOutside : reference ∉ outside.mappings
  listsNotOutside : ∀ option list, held option = .list list → list ∉ outside.lists

def Owns (memory : Memory) (outside : Outside) (reference : Nat)
    (settings : OptionName → Setting) : Prop :=
  ∃ held, memory.Keeps outside reference settings held

/-- What is outside is in the memory, and what its mappings hold is outside. -/
structure Surrounds (memory : Memory) (outside : Outside) : Prop where
  lists : ∀ list ∈ outside.lists, list < memory.lists.length
  mappings : ∀ reference ∈ outside.mappings, reference < memory.mappings.length
  entries : ∀ reference ∈ outside.mappings, ∀ entry ∈ memory.entries reference,
    ∀ list, entry.2 = .list list → list ∈ outside.lists

section Keeps

variable {memory other : Memory} {outside beyond : Outside} {reference : Nat}
variable {settings : OptionName → Setting} {held : OptionName → Held}

theorem Keeps.inside (keeps : memory.Keeps outside reference settings held) :
    reference < memory.mappings.length :=
  (List.getElem?_eq_some_iff.mp keeps.entries).1

/-- Settings are kept as long as their mapping and its lists are the same and are not outside. -/
theorem Keeps.frame (keeps : memory.Keeps outside reference settings held)
    (sameMapping : other.mappings[reference]? = memory.mappings[reference]?)
    (sameLists : ∀ option list, held option = .list list →
      other.lists[list]? = memory.lists[list]?)
    (notBeyond : reference ∉ beyond.mappings)
    (listsNotBeyond : ∀ option list, held option = .list list → list ∉ beyond.lists) :
    other.Keeps beyond reference settings held where
  entries := sameMapping.trans keeps.entries
  reads := by
    intro option
    rw [← keeps.reads option]
    cases isList : held option with
    | value value => rfl
    | list list => rw [read, read, sameLists option list isList]
  within := by
    intro option list isList
    have inside := List.getElem?_eq_getElem (keeps.within option list isList)
    rw [← sameLists option list isList] at inside
    exact (List.getElem?_eq_some_iff.mp inside).1
  distinct := keeps.distinct
  notOutside := notBeyond
  listsNotOutside := listsNotBeyond

theorem Owns.grow (owns : memory.Owns outside reference settings) (grows : memory.Grows other)
    (newLists : ∀ list ∈ beyond.lists, list ∈ outside.lists ∨ memory.lists.length ≤ list)
    (newMappings : ∀ mapping ∈ beyond.mappings,
      mapping ∈ outside.mappings ∨ memory.mappings.length ≤ mapping) :
    other.Owns beyond reference settings := by
  obtain ⟨held, keeps⟩ := owns
  refine ⟨held, keeps.frame (grows.getElem?_mappings keeps.inside)
    (fun option list isList => grows.getElem?_lists (keeps.within option list isList)) ?_ ?_⟩
  · intro member
    rcases newMappings reference member with old | new
    · exact keeps.notOutside old
    · exact absurd keeps.inside (Nat.not_lt_of_le new)
  · intro option list isList member
    rcases newLists list member with old | new
    · exact keeps.listsNotOutside option list isList old
    · exact absurd (keeps.within option list isList) (Nat.not_lt_of_le new)

theorem Owns.writeList (owns : memory.Owns outside reference settings)
    {list : Nat} (member : list ∈ outside.lists) (items : List Value) :
    (memory.writeList list items).Owns outside reference settings := by
  obtain ⟨held, keeps⟩ := owns
  refine ⟨held, keeps.frame rfl ?_ keeps.notOutside keeps.listsNotOutside⟩
  intro option kept isList
  apply List.getElem?_set_ne
  rintro rfl
  exact keeps.listsNotOutside option list isList member

theorem Owns.writeMapping (owns : memory.Owns outside reference settings)
    {mapping : Nat} (different : mapping ≠ reference) (entries : List (String × Held)) :
    (memory.writeMapping mapping entries).Owns outside reference settings := by
  obtain ⟨held, keeps⟩ := owns
  exact ⟨held, keeps.frame (List.getElem?_set_ne different) (fun _ _ _ => rfl)
    keeps.notOutside keeps.listsNotOutside⟩

theorem Owns.ne_of_mem (owns : memory.Owns outside reference settings) {mapping : Nat}
    (member : mapping ∈ outside.mappings) : mapping ≠ reference := by
  obtain ⟨_, keeps⟩ := owns
  rintro rfl
  exact keeps.notOutside member

/-- A mapping of settings reads as the values of the settings. -/
theorem Owns.readEntries (owns : memory.Owns outside reference settings) :
    memory.readEntries reference =
      OptionName.all.map fun option => (option.word, (settings option).value) := by
  obtain ⟨held, keeps⟩ := owns
  rw [Memory.readEntries, Memory.entries, keeps.entries, Option.getD_some, List.map_map]
  exact List.map_congr_left fun option _ => congrArg (option.word, ·) (keeps.reads option)

end Keeps

section Surrounds

variable {memory other : Memory} {outside : Outside} (surrounds : memory.Surrounds outside)
include surrounds

theorem Surrounds.frame (lists : memory.lists.length ≤ other.lists.length)
    (mappings : memory.mappings.length ≤ other.mappings.length)
    (same : ∀ reference ∈ outside.mappings,
      other.mappings[reference]? = memory.mappings[reference]?) :
    other.Surrounds outside where
  lists := fun list member => Nat.lt_of_lt_of_le (surrounds.lists list member) lists
  mappings := fun reference member =>
    Nat.lt_of_lt_of_le (surrounds.mappings reference member) mappings
  entries := by
    intro reference member
    rw [Memory.entries, same reference member]
    exact surrounds.entries reference member

theorem Surrounds.grow (grows : memory.Grows other) : other.Surrounds outside :=
  surrounds.frame grows.lists.length_le grows.mappings.length_le fun reference member =>
    grows.getElem?_mappings (surrounds.mappings reference member)

/-- A mapping that is outside reads the same in a memory that has grown. -/
theorem Surrounds.readEntries (grows : memory.Grows other) {reference : Nat}
    (member : reference ∈ outside.mappings) :
    other.readEntries reference = memory.readEntries reference := by
  have inside := surrounds.mappings reference member
  rw [Memory.readEntries, Memory.readEntries, Memory.entries, grows.getElem?_mappings inside,
    ← Memory.entries]
  refine List.map_congr_left fun entry entryMember => congrArg (entry.1, ·) (grows.read ?_)
  intro list isList
  exact surrounds.lists list (surrounds.entries reference member entry entryMember list isList)

theorem Surrounds.writeMapping {reference : Nat} (notOutside : reference ∉ outside.mappings)
    (entries : List (String × Held)) :
    (memory.writeMapping reference entries).Surrounds outside := by
  refine surrounds.frame (Nat.le_refl _) (Nat.le_of_eq (List.length_set ..).symm) ?_
  intro mapping member
  apply List.getElem?_set_ne
  rintro rfl
  exact notOutside member

theorem Surrounds.overwrite {mapping : Nat} {entries : List (String × Held)}
    (inside : ∀ entry ∈ entries, ∀ list, entry.2 = .list list → list ∈ outside.lists) :
    (memory.writeMapping mapping entries).Surrounds outside where
  lists := surrounds.lists
  mappings := by
    intro reference member
    rw [Memory.writeMapping, List.length_set]
    exact surrounds.mappings reference member
  entries := by
    intro reference member
    rw [Memory.entries, Memory.writeMapping, List.getElem?_set]
    split
    · rw [if_pos, Option.getD_some]
      · exact inside
      · rename_i same
        rw [same]
        exact surrounds.mappings reference member
    · exact surrounds.entries reference member

/-- More lists and mappings of the memory may get outside. -/
theorem Surrounds.extend {lists mappings : List Nat}
    (areLists : ∀ list ∈ lists, list < memory.lists.length)
    (areMappings : ∀ reference ∈ mappings, reference < memory.mappings.length)
    (entries : ∀ reference ∈ mappings, ∀ entry ∈ memory.entries reference,
      ∀ list, entry.2 = .list list → list ∈ outside.lists ++ lists) :
    memory.Surrounds ⟨outside.lists ++ lists, outside.mappings ++ mappings⟩ where
  lists := List.forall_mem_append.mpr ⟨surrounds.lists, areLists⟩
  mappings := List.forall_mem_append.mpr ⟨surrounds.mappings, areMappings⟩
  entries := List.forall_mem_append.mpr
    ⟨fun reference member entry entryMember list isList =>
      List.mem_append_left _ (surrounds.entries reference member entry entryMember list isList),
    entries⟩

end Surrounds

/-! ## Assigning a setting -/

section Assign

variable {memory : Memory} {outside : Outside} {reference : Nat}
variable {settings : OptionName → Setting}

theorem entries_assign {held : OptionName → Held}
    (inside : memory.mappings[reference]? =
      some (OptionName.all.map fun option => (option.word, held option)))
    (option : OptionName) (new : Held) :
    (memory.assign reference option.word new).mappings[reference]? =
      some (OptionName.all.map fun other =>
        (other.word, if other = option then new else held other)) := by
  have entries : memory.entries reference =
      OptionName.all.map fun option => (option.word, held option) := by
    rw [Memory.entries, inside, Option.getD_some]
  have named : option.word ∈
      (OptionName.all.map fun option => (option.word, held option)).map Prod.fst := by
    rw [List.map_map]
    exact List.mem_map_of_mem option.mem_all
  have length := (List.getElem?_eq_some_iff.mp inside).1
  rw [assign, entries, if_pos named, writeMapping, List.getElem?_set_self length, List.map_map]
  refine congrArg some (List.map_congr_left fun other _ => ?_)
  rw [Function.comp_apply]
  by_cases same : other = option
  · rw [if_pos same, if_pos (congrArg OptionName.word same), same]
  · rw [if_neg same, if_neg]
    intro sameWord
    have found := OptionName.ofWord?_word other
    rw [show other.word = option.word from sameWord, OptionName.ofWord?_word] at found
    exact same (Option.some.inj found).symm

/-- What a setting is stored as reads as the setting, and a list of it is a new one. -/
theorem hold_spec (memory : Memory) (setting : Setting) :
    (memory.hold setting).1.read (memory.hold setting).2 = setting.value ∧
      (memory.hold setting).1.Within (memory.hold setting).2 ∧
      ∀ list, (memory.hold setting).2 = .list list → list = memory.lists.length := by
  cases setting with
  | texts values =>
      refine ⟨?_, ?_, fun list isList => (Held.list.inj isList).symm⟩
      · rw [hold, addList, read, List.getElem?_concat_length]
        rfl
      · rintro list isList
        obtain rfl := Held.list.inj isList
        rw [hold, addList, List.length_append]
        exact Nat.lt_succ_self _
  | _ => exact ⟨rfl, nofun, nofun⟩

theorem Owns.assign (owns : memory.Owns outside reference settings)
    (surrounds : memory.Surrounds outside) (option : OptionName) (setting : Setting) :
    ((memory.hold setting).1.assign reference option.word (memory.hold setting).2).Owns outside
      reference fun other => if other = option then setting else settings other := by
  obtain ⟨held, keeps⟩ := owns
  obtain ⟨reads, within, isNew⟩ := memory.hold_spec setting
  have grows := memory.hold_grows setting
  generalize memory.hold setting = holding at *
  obtain ⟨grown, new⟩ := holding
  have newList {list : Nat} (isList : new = .list list) : ∀ other, held other ≠ .list list := by
    intro other sameList
    obtain rfl := isNew list isList
    exact Nat.lt_irrefl _ (keeps.within other _ sameList)
  refine ⟨fun other => if other = option then new else held other, ?_, ?_, ?_, ?_,
    keeps.notOutside, ?_⟩
  · exact entries_assign ((grows.getElem?_mappings keeps.inside).trans keeps.entries) option new
  · intro other
    split
    · exact reads
    · exact (grows.read (keeps.within other)).trans (keeps.reads other)
  · intro other
    split
    · exact within
    · exact grows.within (keeps.within other)
  · intro first second list firstList secondList
    split at firstList <;> split at secondList
    · rename_i isFirst isSecond
      exact isFirst.trans isSecond.symm
    · exact absurd secondList (newList firstList second)
    · exact absurd firstList (newList secondList first)
    · exact keeps.distinct first second list firstList secondList
  · intro other list isList member
    split at isList
    · obtain rfl := isNew list isList
      exact Nat.lt_irrefl _ (surrounds.lists _ member)
    · exact keeps.listsNotOutside other list isList member

end Assign

/-! ## Copying settings -/

section Copy

variable {memory : Memory} {outside : Outside} {reference : Nat}
variable {settings : OptionName → Setting}

theorem copyHeld_spec {held : Held} (within : memory.Within held) :
    (memory.copyHeld held).1.read (memory.copyHeld held).2 = memory.read held ∧
      (memory.copyHeld held).1.Within (memory.copyHeld held).2 ∧
      (memory.copyHeld held).1.mappings = memory.mappings ∧
      ∀ list, (memory.copyHeld held).2 = .list list → list = memory.lists.length := by
  cases held with
  | value value => exact ⟨rfl, nofun, rfl, nofun⟩
  | list reference =>
      refine ⟨?_, ?_, rfl, fun list isList => (Held.list.inj isList).symm⟩
      · rw [copyHeld, addList, read, read, List.getElem?_concat_length, Option.getD_some]
      · rintro list isList
        obtain rfl := Held.list.inj isList
        rw [copyHeld, addList, List.length_append]
        exact Nat.lt_succ_self _

/-- In a memory that has grown by them, copies of entries read as the entries, and their lists are
new and distinct. -/
structure Copies (memory grown : Memory) (among : List OptionName)
    (held copied : OptionName → Held) : Prop where
  grows : memory.Grows grown
  mappings : grown.mappings = memory.mappings
  reads : ∀ option ∈ among, grown.read (copied option) = memory.read (held option)
  within : ∀ option ∈ among, grown.Within (copied option)
  isNew : ∀ option ∈ among, ∀ list, copied option = .list list → memory.lists.length ≤ list
  distinct : ∀ option ∈ among, ∀ other ∈ among, ∀ list, copied option = .list list →
    copied other = .list list → option = other

theorem copyEntries_spec (memory : Memory) {held : OptionName → Held} {among : List OptionName}
    (nodup : among.Nodup) (within : ∀ option ∈ among, memory.Within (held option)) :
    ∃ (grown : Memory) (copied : OptionName → Held),
      memory.copyEntries (among.map fun option => (option.word, held option)) =
          (grown, among.map fun option => (option.word, copied option)) ∧
        memory.Copies grown among held copied := by
  induction among generalizing memory with
  | nil => exact ⟨memory, held, rfl, .refl memory, rfl, nofun, nofun, nofun, nofun⟩
  | cons first others inductionHypothesis =>
      obtain ⟨firstNew, othersNodup⟩ := List.nodup_cons.mp nodup
      obtain ⟨firstWithin, othersWithin⟩ := List.forall_mem_cons.mp within
      obtain ⟨firstReads, copyWithin, sameMappings, firstIsNew⟩ := copyHeld_spec firstWithin
      have grows := memory.copyHeld_grows (held first)
      rw [List.map_cons, copyEntries]
      generalize memory.copyHeld (held first) = copying at *
      obtain ⟨next, firstCopied⟩ := copying
      obtain ⟨grown, othersCopied, result, copies⟩ :=
        inductionHypothesis next othersNodup fun option member =>
          grows.within (othersWithin option member)
      obtain ⟨copied, isFirst, isOther⟩ : ∃ copied : OptionName → Held,
          copied first = firstCopied ∧ ∀ option ∈ others, copied option = othersCopied option := by
        refine ⟨fun option => if option = first then firstCopied else othersCopied option,
          if_pos rfl, fun option member => if_neg ?_⟩
        rintro rfl
        exact firstNew member
      have apart : ∀ option ∈ others, ∀ list, othersCopied option = .list list →
          firstCopied ≠ .list list := fun option member list isList sameList =>
        Nat.not_lt_of_le (copies.isNew option member list isList) (copyWithin list sameList)
      refine ⟨grown, copied, ?_,
        { grows := grows.trans copies.grows
          mappings := copies.mappings.trans sameMappings
          reads := List.forall_mem_cons.mpr ⟨?_, fun option member => ?_⟩
          within := List.forall_mem_cons.mpr ⟨?_, fun option member => ?_⟩
          isNew := List.forall_mem_cons.mpr
            ⟨fun list isList => ?_, fun option member list isList => ?_⟩
          distinct := List.forall_mem_cons.mpr
            ⟨List.forall_mem_cons.mpr
                ⟨fun _ _ _ => rfl, fun other member list isList otherList => ?_⟩,
              fun option member => List.forall_mem_cons.mpr
                ⟨fun list isList firstList => ?_,
                  fun other otherMember list isList otherList => ?_⟩⟩ }⟩
      · have sameOthers : (others.map fun option => (option.word, othersCopied option)) =
            others.map fun option => (option.word, copied option) :=
          List.map_congr_left fun option member => by rw [isOther option member]
        simp only [result, sameOthers, List.map_cons, isFirst]
      · rw [isFirst]
        exact (copies.grows.read copyWithin).trans firstReads
      · rw [isOther option member]
        exact (copies.reads option member).trans (grows.read (othersWithin option member))
      · rw [isFirst]
        exact copies.grows.within copyWithin
      · rw [isOther option member]
        exact copies.within option member
      · rw [isFirst] at isList
        exact Nat.le_of_eq (firstIsNew list isList).symm
      · rw [isOther option member] at isList
        exact Nat.le_trans grows.lists.length_le (copies.isNew option member list isList)
      · rw [isFirst] at isList
        rw [isOther other member] at otherList
        exact absurd isList (apart other member list otherList)
      · rw [isOther option member] at isList
        rw [isFirst] at firstList
        exact absurd firstList (apart option member list isList)
      · rw [isOther option member] at isList
        rw [isOther other otherMember] at otherList
        exact copies.distinct option member other otherMember list isList otherList

/-- A copy of settings is a new mapping of the same settings, with lists of its own. -/
theorem Owns.copy (owns : memory.Owns outside reference settings)
    (surrounds : memory.Surrounds outside) :
    ∃ grown copied, memory.copy reference = (grown, memory.mappings.length) ∧
      memory.Grows grown ∧
      grown.Keeps outside memory.mappings.length settings copied ∧
      ∀ option list, copied option = .list list → memory.lists.length ≤ list := by
  obtain ⟨held, keeps⟩ := owns
  obtain ⟨grown, copied, result, copies⟩ :=
    memory.copyEntries_spec OptionName.all_nodup fun option _ => keeps.within option
  have entries : memory.entries reference =
      OptionName.all.map fun option => (option.word, held option) := by
    rw [Memory.entries, keeps.entries, Option.getD_some]
  have isNew (option : OptionName) (list : Nat) (isList : copied option = .list list) :
      memory.lists.length ≤ list :=
    copies.isNew option option.mem_all list isList
  have adds := grown.addMapping_grows
    (OptionName.all.map fun option => (option.word, copied option))
  refine ⟨_, copied, ?_, copies.grows.trans adds,
    { entries := ?_
      reads := fun option =>
        (copies.reads option option.mem_all).trans (keeps.reads option)
      within := fun option => copies.within option option.mem_all
      distinct := fun option other => copies.distinct option option.mem_all other other.mem_all
      notOutside := fun member => Nat.lt_irrefl _ (surrounds.mappings _ member)
      listsNotOutside := fun option list isList member =>
        Nat.not_lt_of_le (isNew option list isList) (surrounds.lists list member) }, isNew⟩
  · rw [Memory.copy, entries, result, ← copies.mappings]
    rfl
  · rw [addMapping, ← copies.mappings, List.getElem?_concat_length]

end Copy

end Memory

end ApiDocs
