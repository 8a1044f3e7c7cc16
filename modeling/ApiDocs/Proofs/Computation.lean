import ApiDocs.Failure

/-!
# Computations that may fail

A computation changes a state and answers, or fails; the state survives a failure.  What such
computations do is followed step by step: what a computation that answers has done, and which
relations between the states before and after hold however a computation ends.
-/

namespace ApiDocs

/-- A computation whose state survives a failure. -/
abbrev Computation (State Answer : Type) := ExceptT Failure (StateM State) Answer

namespace Computation

variable {State Answer Other Item : Type}

/-! ## Runs -/

theorem run_pure (answer : Answer) (state : State) :
    (pure answer : Computation State Answer).run state = (.ok answer, state) :=
  rfl

theorem run_bind (first : Computation State Answer) (next : Answer → Computation State Other)
    (state : State) :
    (first >>= next).run state =
      match first.run state with
      | (.ok answer, after) => (next answer).run after
      | (.error failure, after) => (.error failure, after) := by
  have unfolded : (first >>= next).run state =
      match first.run state with
      | (outcome, after) => (ExceptT.bindCont next outcome : StateM State _) after :=
    rfl
  rw [unfolded]
  rcases first.run state with ⟨outcome, after⟩
  cases outcome <;> rfl

theorem run_bind_ok
    {first : Computation State Answer} {next : Answer → Computation State Other}
    {before after : State} {answer : Answer}
    (returns : first.run before = (.ok answer, after)) :
    (first >>= next).run before = (next answer).run after := by
  rw [run_bind, returns]

theorem run_bind_error
    {first : Computation State Answer} {next : Answer → Computation State Other}
    {before after : State} {failure : Failure}
    (fails : first.run before = (.error failure, after)) :
    (first >>= next).run before = (.error failure, after) := by
  rw [run_bind, fails]

theorem run_get (state : State) :
    (get : Computation State State).run state = (.ok state, state) :=
  rfl

theorem run_set_bind (replaced : State) (next : PUnit → Computation State Answer) (state : State) :
    (set replaced >>= next).run state = (next PUnit.unit).run replaced :=
  rfl

theorem run_liftM (outcome : Except Failure Answer) (state : State) :
    (liftM outcome : Computation State Answer).run state = (outcome, state) := by
  cases outcome <;> rfl

theorem run_tryCatch (action : Computation State Answer)
    (handler : Failure → Computation State Answer) (state : State) :
    (tryCatch action handler).run state =
      match action.run state with
      | (.ok answer, after) => (.ok answer, after)
      | (.error failure, after) => (handler failure).run after := by
  have bound {Middle : Type} (next : Except Failure Answer → StateM State Middle) :
      (action.run >>= next) state = next (action.run state).1 (action.run state).2 :=
    rfl
  rw [ExceptT.run_tryCatch, bound]
  rcases action.run state with ⟨outcome, after⟩
  cases outcome <;> rfl

/-- A loop whose steps answer has taken them one after the other. -/
theorem run_forIn_of_run {items : List Item}
    {body : Item → PUnit → Computation State (ForInStep PUnit)} {step : State → Item → State}
    (each : ∀ item state,
      (body item PUnit.unit).run state = (.ok (.yield PUnit.unit), step state item))
    (state : State) :
    (forIn items PUnit.unit body).run state = (.ok PUnit.unit, items.foldl step state) := by
  induction items generalizing state with
  | nil => rfl
  | cons item items inductionHypothesis =>
      rw [List.forIn_cons, run_bind_ok (each item state)]
      exact inductionHypothesis (step state item)

theorem eq_ok_of_toOption
    {outcome : Except Failure Answer} {answer : Answer}
    (answers : outcome.toOption = some answer) :
    outcome = .ok answer := by
  cases outcome with
  | error failure => cases answers
  | ok result => rw [Option.some.inj answers]

/-- A computation answers and leaves a state. -/
def Returns (action : Computation State Answer) (before : State) (answer : Answer)
    (after : State) : Prop :=
  action.run before = (.ok answer, after)

variable {action : Computation State Answer} {next : Answer → Computation State Other}
  {before after : State}

theorem returns_pure {answer result : Answer}
    (returns : Returns (pure answer) before result after) :
    result = answer ∧ after = before := by
  rw [Returns, run_pure, Prod.mk.injEq, Except.ok.injEq] at returns
  exact ⟨returns.1.symm, returns.2.symm⟩

theorem returns_bind {result : Other} (returns : Returns (action >>= next) before result after) :
    ∃ answer middle, Returns action before answer middle ∧
      Returns (next answer) middle result after := by
  rw [Returns, run_bind] at returns
  rcases first : action.run before with ⟨outcome, middle⟩
  rw [first] at returns
  cases outcome with
  | error failure => cases returns
  | ok answer => exact ⟨answer, middle, first, returns⟩

theorem returns_get_bind {next : State → Computation State Other} {result : Other}
    (returns : Returns (get >>= next) before result after) :
    Returns (next before) before result after :=
  returns

theorem returns_set_bind {state : State} {next : PUnit → Computation State Other} {result : Other}
    (returns : Returns (set state >>= next) before result after) :
    Returns (next PUnit.unit) state result after :=
  returns

theorem returns_modify {change : State → State} {answer : PUnit}
    (returns : Returns (modify change : Computation State PUnit) before answer after) :
    after = change before := by
  cases returns
  rfl

theorem not_returns_throw {failure : Failure} {answer : Answer} :
    ¬ Returns (throw failure : Computation State Answer) before answer after := by
  intro returns
  cases returns

theorem returns_liftM {outcome : Except Failure Answer} {answer : Answer}
    (returns : Returns (liftM outcome : Computation State Answer) before answer after) :
    outcome = .ok answer ∧ after = before := by
  cases outcome with
  | error failure => cases returns
  | ok result =>
      cases returns
      exact ⟨rfl, rfl⟩

/-- A loop without an answer of its own goes through its items one after the other. -/
theorem returns_forIn_cons {item : Item} {items : List Item} {step : Item → Computation State Unit}
    {answer : PUnit}
    (returns : Returns
      (forIn (item :: items) PUnit.unit fun item _ => do
        step item
        pure (ForInStep.yield PUnit.unit)) before answer after) :
    ∃ middle, Returns (step item) before () middle ∧
      Returns
        (forIn items PUnit.unit fun item _ => do
          step item
          pure (ForInStep.yield PUnit.unit)) middle answer after := by
  rw [List.forIn_cons] at returns
  obtain ⟨stepped, middle, first, rest⟩ := returns_bind returns
  obtain ⟨_, inner, stepReturns, yields⟩ := returns_bind first
  obtain ⟨rfl, rfl⟩ := returns_pure yields
  exact ⟨middle, stepReturns, rest⟩

theorem returns_forIn_nil {step : Item → Computation State Unit} {answer : PUnit}
    (returns : Returns
      (forIn [] PUnit.unit fun item _ => do
        step item
        pure (ForInStep.yield PUnit.unit)) before answer after) :
    after = before := by
  rw [List.forIn_nil] at returns
  exact (returns_pure returns).2

/-- What each item of a loop does, and what can be repeated, the loop does. -/
theorem returns_forIn
    (relation : State → State → Prop) (refl : ∀ state, relation state state)
    (trans : ∀ {first second third}, relation first second → relation second third →
      relation first third)
    {items : List Item} {body : Item → PUnit → Computation State (ForInStep PUnit)}
    (each : ∀ item ∈ items, ∀ {before stepped after},
      Returns (body item PUnit.unit) before stepped after → relation before after)
    {answer : PUnit} (returns : Returns (forIn items PUnit.unit body) before answer after) :
    relation before after := by
  induction items generalizing before with
  | nil =>
      rw [List.forIn_nil] at returns
      rw [(returns_pure returns).2]
      exact refl before
  | cons item items inductionHypothesis =>
      rw [List.forIn_cons] at returns
      obtain ⟨stepped, middle, first, rest⟩ := returns_bind returns
      have firstRelated := each item List.mem_cons_self first
      cases stepped with
      | done =>
          rw [(returns_pure rest).2]
          exact firstRelated
      | yield =>
          exact trans firstRelated
            (inductionHypothesis (fun other member => each other (List.mem_cons_of_mem item member))
              rest)

/-- What each step keeps about the value that it passes on holds of the last value. -/
theorem returns_foldlM
    (invariant : Answer → Prop) {items : List Item}
    {step : Answer → Item → Computation State Answer}
    (each : ∀ {answer item before result after}, invariant answer →
      Returns (step answer item) before result after → invariant result)
    {answer result : Answer} (initial : invariant answer)
    (returns : Returns (items.foldlM step answer) before result after) :
    invariant result := by
  induction items generalizing answer before with
  | nil =>
      rw [List.foldlM_nil] at returns
      rwa [(returns_pure returns).1]
  | cons item items inductionHypothesis =>
      rw [List.foldlM_cons] at returns
      obtain ⟨stepped, middle, first, rest⟩ := returns_bind returns
      exact inductionHypothesis (each initial first) rest

/-! ## Ends -/

/-- However a computation ends, the state it leaves is related to the one it began in. -/
def Ends (relation : State → State → Prop) (action : Computation State Answer) (before : State) :
    Prop :=
  relation before (action.run before).2

section Ends

variable {relation : State → State → Prop}

theorem ends_modify {change : State → State}
    (related : relation before (change before)) :
    Ends relation (modify change : Computation State PUnit) before :=
  related

theorem ends_get_bind {next : State → Computation State Other}
    (rest : Ends relation (next before) before) :
    Ends relation (get >>= next) before :=
  rest

theorem ends_set {state : State}
    (related : relation before state) :
    Ends relation (set state : Computation State PUnit) before :=
  related

variable (refl : ∀ state, relation state state)

include refl

theorem ends_pure (answer : Answer) : Ends relation (pure answer) before :=
  refl before

theorem ends_throw (failure : Failure) :
    Ends relation (throw failure : Computation State Answer) before :=
  refl before

theorem ends_liftM (outcome : Except Failure Answer) :
    Ends relation (liftM outcome : Computation State Answer) before := by
  cases outcome <;> exact refl before

omit refl

theorem ends_map
    (first : Ends relation action before)
    (change : Answer → Other) :
    Ends relation (change <$> action) before := by
  have unfolded : change <$> action = action >>= fun answer => pure (change answer) := rfl
  rw [Ends] at first
  rw [Ends, unfolded, run_bind]
  rcases ran : action.run before with ⟨outcome, middle⟩
  rw [ran] at first
  cases outcome <;> exact first

theorem ends_discard
    (first : Ends relation action before) :
    Ends relation (discard action) before :=
  ends_map first fun _ => PUnit.unit

variable (trans : ∀ {first second third}, relation first second → relation second third →
  relation first third)

include trans

theorem ends_bind
    (first : Ends relation action before)
    (rest : ∀ {answer middle}, Returns action before answer middle →
      Ends relation (next answer) middle) :
    Ends relation (action >>= next) before := by
  rw [Ends] at first
  rw [Ends, run_bind]
  rcases ran : action.run before with ⟨outcome, middle⟩
  rw [ran] at first
  cases outcome with
  | error failure => exact first
  | ok answer => exact trans first (rest ran)

include refl

theorem ends_forIn
    {items : List Item} {body : Item → PUnit → Computation State (ForInStep PUnit)}
    (each : ∀ item ∈ items, ∀ state, Ends relation (body item PUnit.unit) state) :
    Ends relation (forIn items PUnit.unit body) before := by
  induction items generalizing before with
  | nil =>
      rw [List.forIn_nil]
      exact ends_pure refl PUnit.unit
  | cons item items inductionHypothesis =>
      rw [List.forIn_cons]
      refine ends_bind trans (each item List.mem_cons_self before) fun {stepped middle} _ => ?_
      cases stepped with
      | done => exact ends_pure refl PUnit.unit
      | yield =>
          exact inductionHypothesis fun other member =>
            each other (List.mem_cons_of_mem item member)

theorem ends_foldlM
    {items : List Item} {step : Answer → Item → Computation State Answer}
    (each : ∀ answer item state, Ends relation (step answer item) state) (answer : Answer) :
    Ends relation (items.foldlM step answer) before := by
  induction items generalizing before answer with
  | nil => exact ends_pure refl answer
  | cons item items inductionHypothesis =>
      rw [List.foldlM_cons]
      exact ends_bind trans (each answer item before) fun {stepped _} _ =>
        inductionHypothesis stepped

theorem ends_mapM
    {items : List Item} {step : Item → Computation State Answer}
    (each : ∀ item state, Ends relation (step item) state) :
    Ends relation (items.mapM step) before := by
  induction items generalizing before with
  | nil =>
      rw [List.mapM_nil]
      exact ends_pure refl []
  | cons item items inductionHypothesis =>
      rw [List.mapM_cons]
      refine ends_bind trans (each item before) fun _ => ?_
      exact ends_bind trans inductionHypothesis fun _ => ends_pure refl _

end Ends

/-! ## Two runs -/

/-- Two computations, each begun in its own state, answer or fail alike and leave related states. -/
def Agree (relation : State → State → Prop) (first second : Computation State Answer)
    (before before' : State) : Prop :=
  (first.run before).1 = (second.run before').1 ∧
    relation (first.run before).2 (second.run before').2

section Agree

variable {relation : State → State → Prop} {before' : State}

theorem agree_get_bind {next next' : State → Computation State Other}
    (rest : Agree relation (next before) (next' before') before before') :
    Agree relation (get >>= next) (get >>= next') before before' :=
  rest

theorem agree_set {state state' : State} (related : relation state state') :
    Agree relation (set state : Computation State PUnit) (set state') before before' :=
  ⟨rfl, related⟩

theorem agree_modify {change change' : State → State}
    (related : relation (change before) (change' before')) :
    Agree relation (modify change : Computation State PUnit) (modify change') before before' :=
  ⟨rfl, related⟩

theorem agree_pure (related : relation before before') (answer : Answer) :
    Agree relation (pure answer) (pure answer) before before' :=
  ⟨rfl, related⟩

theorem agree_throw (related : relation before before') (failure : Failure) :
    Agree relation (throw failure : Computation State Answer) (throw failure) before before' :=
  ⟨rfl, related⟩

theorem agree_liftM (related : relation before before') (outcome : Except Failure Answer) :
    Agree relation (liftM outcome : Computation State Answer) (liftM outcome) before before' := by
  rw [Agree, run_liftM, run_liftM]
  exact ⟨rfl, related⟩

theorem agree_bind {first second : Computation State Answer}
    {next next' : Answer → Computation State Other}
    (begins : Agree relation first second before before')
    (rest : ∀ {middle middle'} answer, relation middle middle' →
      Agree relation (next answer) (next' answer) middle middle') :
    Agree relation (first >>= next) (second >>= next') before before' := by
  obtain ⟨sameOutcome, related⟩ := begins
  rw [Agree, run_bind, run_bind]
  rcases ran : first.run before with ⟨outcome, middle⟩
  rcases ran' : second.run before' with ⟨outcome', middle'⟩
  rw [ran, ran'] at sameOutcome related
  obtain rfl : outcome = outcome' := sameOutcome
  cases outcome with
  | error failure => exact ⟨rfl, related⟩
  | ok answer => exact rest answer related

theorem agree_map {first second : Computation State Answer}
    (begins : Agree relation first second before before') (change : Answer → Other) :
    Agree relation (change <$> first) (change <$> second) before before' := by
  have unfolded (action : Computation State Answer) :
      change <$> action = action >>= fun answer => pure (change answer) :=
    rfl
  rw [unfolded, unfolded]
  exact agree_bind begins fun answer related => agree_pure related (change answer)

theorem agree_tryCatch {first second : Computation State Answer}
    {handler handler' : Failure → Computation State Answer}
    (begins : Agree relation first second before before')
    (rest : ∀ {middle middle'} failure, relation middle middle' →
      Agree relation (handler failure) (handler' failure) middle middle') :
    Agree relation (tryCatch first handler) (tryCatch second handler') before before' := by
  obtain ⟨sameOutcome, related⟩ := begins
  rw [Agree, run_tryCatch, run_tryCatch]
  rcases ran : first.run before with ⟨outcome, middle⟩
  rcases ran' : second.run before' with ⟨outcome', middle'⟩
  rw [ran, ran'] at sameOutcome related
  obtain rfl : outcome = outcome' := sameOutcome
  cases outcome with
  | error failure => exact rest failure related
  | ok answer => exact ⟨rfl, related⟩

theorem agree_forIn {items : List Item}
    {body body' : Item → PUnit → Computation State (ForInStep PUnit)}
    (each : ∀ {state state'}, ∀ item ∈ items, relation state state' →
      Agree relation (body item PUnit.unit) (body' item PUnit.unit) state state')
    (related : relation before before') :
    Agree relation (forIn items PUnit.unit body) (forIn items PUnit.unit body') before before' := by
  induction items generalizing before before' with
  | nil =>
      rw [List.forIn_nil, List.forIn_nil]
      exact agree_pure related PUnit.unit
  | cons item items inductionHypothesis =>
      rw [List.forIn_cons, List.forIn_cons]
      refine agree_bind (each item List.mem_cons_self related) fun stepped related => ?_
      cases stepped with
      | done => exact agree_pure related PUnit.unit
      | yield =>
          exact inductionHypothesis
            (fun other member => each other (List.mem_cons_of_mem item member)) related

/-- A loop without an answer of its own. -/
theorem agree_loop {items : List Item} {step step' : Item → Computation State Unit}
    (each : ∀ {state state'}, ∀ item ∈ items, relation state state' →
      Agree relation (step item) (step' item) state state')
    (related : relation before before') :
    Agree relation
      (forIn items PUnit.unit fun item _ => do
        step item
        pure (ForInStep.yield PUnit.unit))
      (forIn items PUnit.unit fun item _ => do
        step' item
        pure (ForInStep.yield PUnit.unit)) before before' :=
  agree_forIn (fun item member related =>
    agree_bind (each item member related) fun _ related => agree_pure related _) related

theorem agree_foldlM {items : List Item} {step step' : Answer → Item → Computation State Answer}
    (each : ∀ {state state'} answer, ∀ item ∈ items, relation state state' →
      Agree relation (step answer item) (step' answer item) state state')
    (answer : Answer) (related : relation before before') :
    Agree relation (items.foldlM step answer) (items.foldlM step' answer) before before' := by
  induction items generalizing before before' answer with
  | nil => exact agree_pure related answer
  | cons item items inductionHypothesis =>
      rw [List.foldlM_cons, List.foldlM_cons]
      exact agree_bind (each answer item List.mem_cons_self related) fun stepped related =>
        inductionHypothesis
          (fun answer other member => each answer other (List.mem_cons_of_mem item member))
          stepped related

theorem agree_mapM {items : List Item} {step step' : Item → Computation State Answer}
    (each : ∀ {state state'}, ∀ item ∈ items, relation state state' →
      Agree relation (step item) (step' item) state state')
    (related : relation before before') :
    Agree relation (items.mapM step) (items.mapM step') before before' := by
  induction items generalizing before before' with
  | nil =>
      rw [List.mapM_nil, List.mapM_nil]
      exact agree_pure related []
  | cons item items inductionHypothesis =>
      rw [List.mapM_cons, List.mapM_cons]
      refine agree_bind (each item List.mem_cons_self related) fun answer related => ?_
      refine agree_bind (inductionHypothesis
        (fun other member => each other (List.mem_cons_of_mem item member)) related)
        fun answers related => ?_
      exact agree_pure related (answer :: answers)

end Agree

end Computation

end ApiDocs
