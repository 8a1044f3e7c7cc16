import ApiDocs.Proofs.Settings.Mapping

/-!
# Configuration files that cannot be used

A configuration file that cannot be read, is not well formed or holds no mapping is at fault by its
own account.  Other failures escape that account.  Both are told apart by what stands in the file,
and what is read from a file that has neither is a mapping.
-/

namespace ApiDocs

/-! ## Failures -/

/-- The failure that an outcome is, if it is one. -/
def failureOf? {Answer : Type} : Except Failure Answer → Option Failure
  | .ok _ => none
  | .error failure => some failure

section Failures

variable {Item Answer Other : Type}

theorem eq_error_iff {outcome : Except Failure Answer} {failure : Failure} :
    outcome = .error failure ↔ failureOf? outcome = some failure := by
  cases outcome <;> simp [failureOf?]

@[simp]
theorem failureOf?_map (change : Answer → Other) (outcome : Except Failure Answer) :
    failureOf? (outcome.map change) = failureOf? outcome := by
  cases outcome <;> rfl

theorem failureOf?_bind (outcome : Except Failure Answer) (next : Answer → Except Failure Other) :
    failureOf? (outcome >>= next) =
      match outcome with
      | .ok answer => failureOf? (next answer)
      | .error failure => some failure := by
  cases outcome <;> rfl

/-- Items fail together with the first of them that fails. -/
theorem failureOf?_mapM (step : Item → Except Failure Answer) (items : List Item) :
    failureOf? (items.mapM step) = items.findSome? fun item => failureOf? (step item) := by
  induction items with
  | nil => rfl
  | cons item items inductionHypothesis =>
      rw [List.mapM_cons, List.findSome?_cons, failureOf?_bind]
      cases step item with
      | error failure => rfl
      | ok answer =>
          dsimp only
          rw [show failureOf? (.ok answer) = none from rfl, ← inductionHypothesis,
            failureOf?_bind]
          cases items.mapM step <;> rfl

/-- Items that answer together answer one by one. -/
theorem forall₂_of_mapM {step : Item → Except Failure Answer} {items : List Item}
    {answers : List Answer} (together : items.mapM step = .ok answers) :
    List.Forall₂ (fun item answer => step item = .ok answer) items answers := by
  induction items generalizing answers with
  | nil =>
      cases together
      exact .nil
  | cons item items inductionHypothesis =>
      rw [List.mapM_cons] at together
      obtain ⟨head, first, together⟩ := exists_of_bind_ok together
      obtain ⟨tail, rest, together⟩ := exists_of_bind_ok together
      cases together
      exact .cons first (inductionHypothesis rest)

end Failures

def Value.isText : Value → Bool
  | .text _ => true
  | _ => false

namespace ConfigFile

variable {environment : Environment} {disk : Disk} {path place : Path} {bytes : List UInt8}

/-! ## Names of files -/

/-- The items of a list; another value stands for a list of its own. -/
def itemsOf (value : Value) : List Value :=
  match value with
  | .list items => items
  | _ => [value]

/-- The values of an entry that have to be names of files. -/
def namesOf (key value : Value) : List Value :=
  match key with
  | .text word =>
    if word = OptionName.inputFiles.word then itemsOf value
    else if word = OptionName.readme.word ∧ value.isTrue then [value]
    else []
  | _ => []

/-- The first name of a file in an entry that is no text. -/
def misnamed? (entry : Value × Value) : Option Value :=
  (namesOf entry.1 entry.2).find? fun name => !name.isText

/-- A value with its references resolved, also in the items of a list. -/
def resolved (environment : Environment) (value : Value) : Value :=
  match value with
  | .list items => .list (items.map environment.resolve)
  | _ => environment.resolve value

/-- References stand in texts only, and for texts. -/
theorem resolve_eq (environment : Environment) (value : Value) :
    environment.resolve value = value ∨
      value.isText = true ∧ (environment.resolve value).isText = true := by
  cases value with
  | text text =>
      refine Or.inr ⟨rfl, ?_⟩
      rw [Environment.resolve]
      split <;> rfl
  | _ => exact Or.inl rfl

/-- What is no text keeps its type, and whether it says anything. -/
theorem resolved_of_notText {value : Value} (environment : Environment)
    (notText : value.isText = false) :
    (resolved environment value).isText = false ∧
      (resolved environment value).typeName = value.typeName ∧
        (resolved environment value).isTrue = value.isTrue := by
  cases value with
  | text text => cases notText
  | list items =>
      refine ⟨rfl, rfl, ?_⟩
      rw [resolved, Value.isTrue, Value.isTrue, List.isEmpty_map]
  | _ => exact ⟨rfl, rfl, rfl⟩

theorem isText_resolved {value : Value} (environment : Environment) (isText : value.isText = true) :
    (resolved environment value).isText = true := by
  cases value with
  | text text =>
      rcases resolve_eq environment (.text text) with same | ⟨_, resolvedText⟩
      · exact congrArg Value.isText same
      · exact resolvedText
  | _ => cases isText

theorem failureOf?_fileName (directory : Path) (name : Value) :
    failureOf? (fileName directory name) =
      if name.isText then none else some (.notFileName name.typeName) := by
  cases name <;> rfl

theorem failureOf?_fileName_resolve (environment : Environment) (directory : Path) (name : Value) :
    failureOf? (fileName directory (environment.resolve name)) =
      if name.isText then none else some (.notFileName name.typeName) := by
  rw [failureOf?_fileName]
  rcases resolve_eq environment name with same | ⟨isText, resolvedText⟩
  · rw [same]
  · rw [if_pos resolvedText, if_pos isText]

theorem itemsOf_resolved (environment : Environment) (value : Value) :
    itemsOf (resolved environment value) = (itemsOf value).map environment.resolve := by
  cases value with
  | text text =>
      rw [resolved, Environment.resolve]
      · split <;> simp_all [itemsOf, Environment.resolve]
      · exact nofun
  | _ => rfl

theorem meaning_text (environment : Environment) (directory : Path) (word : String)
    (value : Value) :
    meaning environment directory (.text word) value =
      if word = OptionName.inputFiles.word then
        (((itemsOf value).map environment.resolve).mapM (fileName directory)).map Value.list
      else if word = OptionName.readme.word ∧ (resolved environment value).isTrue then
        fileName directory (resolved environment value)
      else .ok (resolved environment value) := by
  have unfolded : meaning environment directory (.text word) value =
      if (word == OptionName.inputFiles.word) = true then
        ((itemsOf (resolved environment value)).mapM (fileName directory)).map Value.list
      else if (word == OptionName.readme.word && (resolved environment value).isTrue) = true then
        fileName directory (resolved environment value)
      else .ok (resolved environment value) :=
    rfl
  simpa only [beq_iff_eq, Bool.and_eq_true, itemsOf_resolved] using unfolded

/-- An entry fails for the first name of a file in it that is no text. -/
theorem failureOf?_meaning (environment : Environment) (directory : Path) (key value : Value) :
    failureOf? (meaning environment directory key value) =
      (misnamed? (key, value)).map fun name => .notFileName name.typeName := by
  have each (items : List Value) :
      failureOf? (((items.map environment.resolve).mapM (fileName directory)).map Value.list) =
        (items.find? fun name => !name.isText).map fun name => .notFileName name.typeName := by
    rw [failureOf?_map, failureOf?_mapM, List.findSome?_map, List.find?_eq_findSome?_guard,
      List.map_findSome?]
    congr 1
    funext name
    rw [Function.comp_apply, failureOf?_fileName_resolve]
    cases isText : name.isText <;> simp [Option.guard, isText]
  cases key with
  | text word =>
      rw [misnamed?, namesOf, meaning_text]
      split
      · exact each (itemsOf value)
      · cases isText : value.isText with
        | true =>
            have named (directory : Path) :
                failureOf? (fileName directory (resolved environment value)) = none := by
              rw [failureOf?_fileName, if_pos (isText_resolved environment isText)]
            have noneMisnamed (condition : Prop) [Decidable condition] :
                ((if condition then [value] else []).find? fun name => !name.isText) = none := by
              split <;> simp [isText]
            rw [noneMisnamed]
            split
            · exact named directory
            · rfl
        | false =>
            obtain ⟨notText, sameType, sameTruth⟩ := resolved_of_notText environment isText
            rw [sameTruth]
            split
            · rw [failureOf?_fileName, notText, sameType]
              simp [isText]
            · rfl
  | _ => rfl

/-! ## Files -/

/-- A path leads to a file with the given bytes. -/
structure Holds (environment : Environment) (disk : Disk) (path place : Path)
    (bytes : List UInt8) : Prop where
  expands : environment.expandHome? path = some place
  named : '\x00' ∉ place.text.toList
  reads : disk.read place = .ok bytes

/-- The faults that a configuration file has by its own account. -/
inductive AtFault (environment : Environment) (disk : Disk) (path : Path) : ConfigFault → Prop where
  | unreadable {place : Path} {fault : FileFault}
      (expands : environment.expandHome? path = some place)
      (named : '\x00' ∉ place.text.toList)
      (unread : disk.read place = .error fault) :
      AtFault environment disk path (.unreadable place fault)
  | malformed {place : Path} {bytes : List UInt8}
      (holds : Holds environment disk path place bytes)
      (isMalformed : environment.platform.documents.read bytes = .error .malformed) :
      AtFault environment disk path (.malformed place)
  | notMapping {place : Path} {bytes : List UInt8} {value : Value}
      (holds : Holds environment disk path place bytes)
      (reads : environment.platform.documents.read bytes = .ok (some value))
      (notNull : value ≠ .null)
      (notMapping : ∀ pairs, value ≠ .mapping pairs) :
      AtFault environment disk path (.notMapping place)

/-- The failures of a configuration file that escape its account: its path cannot be used, the
reader of documents fails in another way than on a text that is no document, or the name of a file
in it is no text. -/
inductive Escapes (environment : Environment) (disk : Disk) (path : Path) : Failure → Prop where
  | homeless (homeless : environment.expandHome? path = none) :
      Escapes environment disk path (.homeless path)
  | nullInName {place : Path}
      (expands : environment.expandHome? path = some place)
      (nullNamed : '\x00' ∈ place.text.toList) :
      Escapes environment disk path .nullInName
  | document {place : Path} {bytes : List UInt8} {fault : Yaml.Fault}
      (holds : Holds environment disk path place bytes)
      (fails : environment.platform.documents.read bytes = .error fault)
      (wellFormed : fault ≠ .malformed) :
      Escapes environment disk path (.document fault)
  | notFileName {place : Path} {bytes : List UInt8} {pairs : List (Value × Value)} {name : Value}
      (holds : Holds environment disk path place bytes)
      (reads : environment.platform.documents.read bytes = .ok (some (.mapping pairs)))
      (misnamed : pairs.findSome? misnamed? = some name) :
      Escapes environment disk path (.notFileName name.typeName)

/-- An entry of a configuration file, with what its value means. -/
def meant (environment : Environment) (directory : Path) (entry : Value × Value) :
    Except Failure (Value × Value) := do
  return (entry.1, ← meaning environment directory entry.1 entry.2)

theorem load_eq (expands : environment.expandHome? path = some place)
    (named : '\x00' ∉ place.text.toList) :
    load environment disk path =
      match disk.read place with
      | .error fault => .error (.config (.unreadable place fault))
      | .ok bytes =>
        readPairs environment.platform.documents place bytes >>= fun pairs =>
          pairs.mapM (meant environment place.parent) := by
  have absent : place.text.toList.contains '\x00' = false := by simpa using named
  simp only [load, expands, absent]
  rfl

theorem load_of_null (expands : environment.expandHome? path = some place)
    (nullNamed : '\x00' ∈ place.text.toList) :
    load environment disk path = .error .nullInName := by
  have present : place.text.toList.contains '\x00' = true := by simpa using nullNamed
  simp only [load, expands, present]
  rfl

theorem load_of_homeless (homeless : environment.expandHome? path = none) :
    load environment disk path = .error (.homeless path) := by
  simp only [load, homeless]
  rfl

theorem load_of_holds (holds : Holds environment disk path place bytes) :
    load environment disk path =
      readPairs environment.platform.documents place bytes >>= fun pairs =>
        pairs.mapM (meant environment place.parent) := by
  simp only [load_eq holds.expands holds.named, holds.reads]

theorem failureOf?_meant (environment : Environment) (directory : Path) (entry : Value × Value) :
    failureOf? (meant environment directory entry) =
      (misnamed? entry).map fun name => .notFileName name.typeName := by
  rw [← failureOf?_meaning, meant, failureOf?_bind]
  cases meaning environment directory entry.1 entry.2 <;> rfl

/-- Pairs fail together for the first name of a file in them that is no text. -/
theorem failureOf?_meantPairs (environment : Environment) (directory : Path)
    (pairs : List (Value × Value)) :
    failureOf? (pairs.mapM (meant environment directory)) =
      (pairs.findSome? misnamed?).map fun name => .notFileName name.typeName := by
  rw [failureOf?_mapM, List.map_findSome?]
  congr 1
  funext entry
  exact failureOf?_meant environment directory entry

/-- The keys of a file stay what they are. -/
theorem isMapping_of_meant {directory : Path} {pairs values : List (Value × Value)}
    (isMapping : IsMapping pairs)
    (together : pairs.mapM (meant environment directory) = .ok values) : IsMapping values := by
  refine isMapping.of_keys ?_
  have each := forall₂_of_mapM together
  clear together isMapping
  induction each with
  | nil => rfl
  | cons first _ inductionHypothesis =>
      obtain ⟨value, _, same⟩ := exists_of_bind_ok first
      cases same
      rw [List.map_cons, List.map_cons, inductionHypothesis]

/-- A configuration file fails by its own account, fails otherwise, or holds a mapping. -/
theorem load_outcome (environment : Environment) (disk : Disk) (path : Path) :
    (∃ values, load environment disk path = .ok values ∧ IsMapping values) ∨
      (∃ fault, load environment disk path = .error (.config fault) ∧
        AtFault environment disk path fault) ∨
        ∃ failure, load environment disk path = .error failure ∧
          Escapes environment disk path failure := by
  cases expands : environment.expandHome? path with
  | none => exact Or.inr (Or.inr ⟨_, load_of_homeless expands, .homeless expands⟩)
  | some place =>
      by_cases nullNamed : '\x00' ∈ place.text.toList
      · exact Or.inr (Or.inr ⟨_, load_of_null expands nullNamed, .nullInName expands nullNamed⟩)
      cases reads : disk.read place with
      | error fault =>
          have loaded : load environment disk path = _ := load_eq expands nullNamed
          simp only [reads] at loaded
          exact Or.inr (Or.inl ⟨_, loaded, .unreadable expands nullNamed reads⟩)
      | ok bytes =>
          have holds : Holds environment disk path place bytes := ⟨expands, nullNamed, reads⟩
          have loaded := load_of_holds holds
          rw [readPairs] at loaded
          cases read : environment.platform.documents.read bytes with
          | error fault =>
              rw [read] at loaded
              by_cases isMalformed : fault = .malformed
              · subst isMalformed
                exact Or.inr (Or.inl ⟨_, loaded, .malformed holds read⟩)
              · refine Or.inr (Or.inr ⟨_, ?_, .document holds read isMalformed⟩)
                rw [loaded]
                cases fault with
                | malformed => exact absurd rfl isMalformed
                | _ => rfl
          | ok value? =>
              rw [read] at loaded
              cases value? with
              | none => exact Or.inl ⟨[], loaded, .nil⟩
              | some value =>
                  cases value with
                  | null => exact Or.inl ⟨[], loaded, .nil⟩
                  | mapping pairs =>
                      have loaded : load environment disk path =
                          pairs.mapM (meant environment place.parent) := loaded
                      have isMapping := environment.platform.documents.isMapping read
                      cases together : pairs.mapM (meant environment place.parent) with
                      | ok values =>
                          exact Or.inl ⟨values, loaded.trans together,
                            isMapping_of_meant isMapping together⟩
                      | error failure =>
                          have fails := failureOf?_meantPairs environment place.parent pairs
                          rw [together, failureOf?, eq_comm, Option.map_eq_some_iff] at fails
                          obtain ⟨name, misnamed, rfl⟩ := fails
                          exact Or.inr (Or.inr ⟨_, loaded.trans together,
                            .notFileName holds read misnamed⟩)
                  | _ => exact Or.inr (Or.inl ⟨_, loaded, .notMapping holds read nofun nofun⟩)

theorem load_of_atFault {fault : ConfigFault} (atFault : AtFault environment disk path fault) :
    load environment disk path = .error (.config fault) := by
  cases atFault with
  | unreadable expands named unread => simp only [load_eq expands named, unread]
  | malformed holds isMalformed =>
      rw [load_of_holds holds, readPairs, isMalformed]
      rfl
  | @notMapping place bytes value holds reads notNull notMapping =>
      rw [load_of_holds holds, readPairs, reads]
      cases value with
      | null => exact absurd rfl notNull
      | mapping pairs => exact absurd rfl (notMapping pairs)
      | _ => rfl

theorem load_of_escapes {failure : Failure} (escapes : Escapes environment disk path failure) :
    load environment disk path = .error failure := by
  cases escapes with
  | homeless homeless => exact load_of_homeless homeless
  | nullInName expands nullNamed => exact load_of_null expands nullNamed
  | @document place bytes fault holds fails wellFormed =>
      rw [load_of_holds holds, readPairs, fails]
      cases fault with
      | malformed => exact absurd rfl wellFormed
      | _ => rfl
  | @notFileName place bytes pairs name holds reads misnamed =>
      rw [load_of_holds holds, readPairs, reads]
      refine eq_error_iff.mpr ?_
      exact (failureOf?_meantPairs environment place.parent pairs).trans (by rw [misnamed]; rfl)

/-- The failures that escape are no faults of the file by its own account. -/
theorem Escapes.ne_config {failure : Failure} (escapes : Escapes environment disk path failure)
    (fault : ConfigFault) : failure ≠ .config fault := by
  cases escapes with
  | homeless homeless =>
      rw [Failure.homeless]
      split <;> exact nofun
  | _ => exact nofun

end ConfigFile

end ApiDocs
