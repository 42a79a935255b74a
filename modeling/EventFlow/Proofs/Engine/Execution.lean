import EventFlow.Engine.Execute
import EventFlow.Proofs.Engine.Walk

/-!
# What becomes of the row of an execution

A run under an id either is rejected and leaves everything as it was, or it
opens the row of the execution, walks the flow and closes the row with the
outcome of the walk.  It touches no row of another execution, and this does not
depend on what other tasks do to the rest of the store in the meantime.
-/

namespace EventFlow

open Program Shared

/-- Does the error mean that no execution has been opened? -/
def EngineError.isRejection : EngineError → Bool
  | .flowNotFound _ => true
  | .flowDisabled _ => true
  | .boundToOtherFlow _ _ => true
  | _ => false

/-- The error tells why a request is rejected: its flow does not exist or is switched
off, or the row that the execution has is bound to another flow. -/
def EngineError.Rejects (request : FlowRequest) (before : Option Execution) : EngineError → Prop
  | .flowNotFound flowId => flowId = request.flowId
  | .flowDisabled flowId => flowId = request.flowId
  | .boundToOtherFlow _ _ => ∃ row, before = some row ∧ row.flowId ≠ request.flowId
  | _ => False

/-- The error as the row of a failed execution tells it. -/
def EngineError.recorded : EngineError → String
  | .panicked message => "panic: " ++ message
  | e => e.message

theorem EngineError.isRejection_of_isOfWalk {e : EngineError} (ofWalk : e.isOfWalk = true) :
    e.isRejection = false ∧ e.recorded = e.message := by
  cases e <;> simp_all [isOfWalk, isRejection, recorded]

/-! ## Rows -/

/-- The row carries a request; `before` is the row that the execution had until
then, whose times it keeps. -/
structure Execution.Carries (request : FlowRequest) (before : Option Execution)
    (row : Execution) : Prop where
  flowId : row.flowId = request.flowId
  triggerType : row.triggerType = request.triggerType
  triggerId : row.triggerId = request.triggerId
  payload : row.payload = request.payload
  createdAt : ∀ old, before = some old → row.createdAt = old.createdAt
  startedAt : ∀ old, before = some old → ∀ start, old.startedAt = some start →
    row.startedAt = some start

/-- An execution that is started for a request carries it. -/
theorem Execution.carries_start {row : Execution} {request : FlowRequest}
    {before : Option Execution} (bound : row.flowId = request.flowId)
    (same : ∀ old, before = some old → old = row) (now : Instant) :
    (row.start now request.triggerType request.triggerId request.payload).Carries request
      before where
  flowId := bound
  triggerType := rfl
  triggerId := rfl
  payload := rfl
  createdAt old found := by rw [same old found]; rfl
  startedAt old found start started := by
    rw [same old found] at started
    simp [Execution.start, started]

namespace Engine

/-- The execution is running for a request, with the given row. -/
structure Opened (id : ExecutionId) (request : FlowRequest) (before : Option Execution)
    (row : Execution) (s : Store) : Prop where
  stored : s.getExecution id = some row
  executionId : row.executionId = id
  error : row.error = none
  carries : row.Carries request before

/-- The execution has ended in a state, for a request. -/
def Ended (id : ExecutionId) (request : FlowRequest) (before : Option Execution)
    (state : ExecutionState) (error : Option String) (s : Store) : Prop :=
  ∃ row, s.getExecution id = some row ∧ row.Carries request before ∧ row.state = state ∧
    row.error = error ∧ row.finishedAt.isSome = true

/-- The outcome of a run under an id that began in a state. -/
def Outcome {α : Type} (id : ExecutionId) (request : FlowRequest)
    (others : Shared → Shared → Prop) (s : Shared) : Except EngineError α → Shared → Prop
  | .ok _, t => Ended id request (s.store.getExecution id) .succeeded none t.store
  | .error e, t =>
    if e.isRejection then e.Rejects request (s.store.getExecution id) ∧ others s t
    else Ended id request (s.store.getExecution id) .failed (some e.recorded) t.store

/-- The terms of a run under an id. -/
def runTerms (id : ExecutionId) (base : Int) (others : Shared → Shared → Prop) : Terms Shared where
  valid s := s.store.WellFormed ∧ base ≤ s.store.lastId
  rely := others
  guarantee s t := t.queue = s.queue ∧ s.store.ChangesOnly id base t.store

variable {id : ExecutionId} {base : Int} {others : Shared → Shared → Prop}

theorem runTerms_guarantee_refl (s : Shared) : (runTerms id base others).guarantee s s :=
  ⟨rfl, .refl id base s.store⟩

/-- A row that is stored is replaced within the terms. -/
theorem keeps_update (apart : Apart id others) {α : Type} {row old : Execution}
    {next : Except StoreError Unit → Routine α} {ensures : α → Shared → Prop} {s : Shared}
    (rowId : row.executionId = id) (present : s.store.getExecution id = some old)
    (rest : ∀ t, t.store.getExecution id = some row →
      Keeps answering (runTerms id base others) ensures (next (.ok ())) t) :
    Keeps answering (runTerms id base others) ensures
      (.ask (ServiceCall.store (.updateExecution row) : service.Question) next) s := by
  rintro t between _ result u ⟨_, rfl, rfl⟩
  subst rowId
  rw [← (apart.sameFor s t between).execution] at present
  obtain ⟨after, updated, stored, changes⟩ := Store.updateExecution_of_present row base present
  simp only [Store.answer, updated, Store.changed]
  exact ⟨⟨rfl, changes⟩, rest _ stored⟩

/-! ## Opening -/

/-- What opening the row of an execution comes to. -/
def OpenOutcome (id : ExecutionId) (request : FlowRequest) (others : Shared → Shared → Prop)
    (s : Shared) : Except EngineError Execution → Shared → Prop
  | .ok row, t => Opened id request (s.store.getExecution id) row t.store
  | .error e, t =>
    e.isRejection = true ∧ e.Rejects request (s.store.getExecution id) ∧ others s t

/-- A row that is stored is opened unless it is bound to another flow. -/
theorem reuse_keeps (apart : Apart id others) {request : FlowRequest} {existing : Execution}
    {s t : Shared} (before : others s t) (found : t.store.getExecution id = some existing) :
    Keeps answering (runTerms id base others) (OpenOutcome id request others s)
      (reuse existing request) t := by
  have storedId := Store.executionId_of_getExecution found
  unfold reuse
  by_cases bound : existing.flowId = request.flowId
  · simp only [bound, ne_eq, not_true_eq_false, if_false, Service.now_bind, Service.store_bind]
    rintro _ between _ now u rfl
    refine ⟨runTerms_guarantee_refl u, ?_⟩
    have present := (apart.sameFor t u between).execution.trans found
    refine keeps_update apart storedId present fun v stored => ?_
    refine ⟨stored, storedId, rfl, Execution.carries_start bound ?_ now⟩
    rw [← (apart.sameFor s t before).execution, found]
    exact fun old same => (Option.some.inj same).symm
  · simp only [bound, ne_eq, not_false_eq_true, if_true]
    have stored := (apart.sameFor s t before).execution.symm.trans found
    exact ⟨rfl, ⟨existing, stored, bound⟩, before⟩

theorem openExecution_keeps (apart : Apart id others) (request : FlowRequest) {s t : Shared}
    (before : others s t) :
    Keeps answering (runTerms id base others) (OpenOutcome id request others s)
      (openExecution id request) t := by
  simp only [openExecution, Service.now_bind, Service.store_bind]
  rintro u first _ result _ ⟨_, rfl, rfl⟩
  refine ⟨runTerms_guarantee_refl u, ?_⟩
  have unopened := apart.trans before first
  simp only [Store.answer]
  cases found : u.store.getExecution id with
  | some existing => exact reuse_keeps apart unopened found
  | none =>
      rintro _ second _ created v rfl
      refine ⟨runTerms_guarantee_refl v, ?_⟩
      rintro _ third _ now w rfl
      refine ⟨runTerms_guarantee_refl w, ?_⟩
      rintro x fourth _ result _ ⟨_, rfl, rfl⟩
      have between := apart.trans (apart.trans second third) fourth
      have absent := (apart.sameFor u x between).execution.trans found
      obtain ⟨after, inserted, stored, changes⟩ := Store.createExecution_of_absent
        ((Execution.create created id request.flowId).start now request.triggerType
          request.triggerId request.payload) base absent
      simp only [Store.answer, inserted, Store.changed]
      refine ⟨⟨rfl, changes⟩, stored, rfl, rfl, Execution.carries_start rfl ?_ now⟩
      rw [← (apart.sameFor s u unopened).execution, found]
      simp

/-! ## Closing -/

theorem Opened.ended {request : FlowRequest} {before : Option Execution} {row ended : Execution}
    {s t : Store} (opened : Opened id request before row s)
    (stored : t.getExecution id = some ended) (same : ended.flowId = row.flowId ∧
      ended.triggerType = row.triggerType ∧ ended.triggerId = row.triggerId ∧
      ended.payload = row.payload ∧ ended.createdAt = row.createdAt ∧
      ended.startedAt = row.startedAt)
    (finished : ended.finishedAt.isSome = true) :
    Ended id request before ended.state ended.error t := by
  obtain ⟨flowId, triggerType, triggerId, payload, createdAt, startedAt⟩ := same
  have carries := opened.carries
  refine ⟨ended, stored, ?_, rfl, rfl, finished⟩
  exact ⟨flowId.trans carries.flowId, triggerType.trans carries.triggerType,
    triggerId.trans carries.triggerId, payload.trans carries.payload,
    fun old found => createdAt.trans (carries.createdAt old found),
    fun old found start started => startedAt.trans (carries.startedAt old found start started)⟩

/-- An open row is closed with the outcome of the walk. -/
theorem finish_keeps (apart : Apart id others) {request : FlowRequest} {row : Execution}
    {progress : Run.Progress} {s t : Shared}
    (opened : Opened id request (s.store.getExecution id) row t.store)
    (ends : EndsAsWalk progress.2) :
    Keeps answering (runTerms id base others) (Outcome id request others s)
      (finish row progress) t := by
  have closes (after : Instant → Execution)
      {next : Instant → Except StoreError Unit → Routine (Except EngineError Unit)}
      (sameId : ∀ now, (after now).executionId = row.executionId)
      (rest : ∀ now u, u.store.getExecution id = some (after now) →
        Keeps answering (runTerms id base others) (Outcome id request others s)
          (next now (.ok ())) u) :
      Keeps answering (runTerms id base others) (Outcome id request others s)
        (.ask (ServiceCall.now : service.Question) fun now =>
          .ask (ServiceCall.store (.updateExecution (after now)) : service.Question)
            (next now)) t := by
    rintro _ between _ now u rfl
    refine ⟨runTerms_guarantee_refl u, ?_⟩
    have present := (apart.sameFor t u between).execution.trans opened.stored
    exact keeps_update apart ((sameId now).trans opened.executionId) present (rest now)
  obtain ⟨vars, outcome⟩ := progress
  match outcome with
  | .ok () =>
      simp only [finish, close, Service.now_bind, Service.store_bind]
      apply closes (row.succeed · vars) (fun _ => rfl)
      intro now u stored
      have ended := opened.ended stored ⟨rfl, rfl, rfl, rfl, rfl, rfl⟩ rfl
      simpa [Outcome, Execution.succeed, opened.error] using ended
  | .error (.failed e) =>
      simp only [finish, close, Service.now_bind, Service.store_bind]
      apply closes (row.fail · e.message vars) (fun _ => rfl)
      intro now u stored
      obtain ⟨notRejected, recorded⟩ := EngineError.isRejection_of_isOfWalk (ends e rfl)
      have ended := opened.ended stored ⟨rfl, rfl, rfl, rfl, rfl, rfl⟩ rfl
      simpa [Outcome, Execution.fail, notRejected, recorded] using ended
  | .error (.panicked message) =>
      simp only [finish, Service.now_bind, Service.store_bind]
      apply closes (row.fail · ("panic: " ++ message) row.vars) (fun _ => rfl)
      intro now u stored
      have ended := opened.ended stored ⟨rfl, rfl, rfl, rfl, rfl, rfl⟩ rfl
      simpa [Outcome, Execution.fail, EngineError.isRejection, EngineError.recorded] using ended

/-! ## Running -/

/-- While a flow is walked the row of the execution stays as it was opened. -/
theorem walk_keeps_row (apart : Apart id others) {run : Run} (under : run.executionId = id)
    (flow : Flow) (triggerType : String) (vars : Bag) {row : Execution} {s : Shared}
    (stored : s.store.getExecution id = some row) :
    Keeps answering (runTerms id base others)
      (fun progress t => EndsAsWalk progress.2 ∧ t.store.getExecution id = some row)
      (run.walk flow triggerType vars) s := by
  have walked : Keeps answering (walkTerms id base others) _ _ s :=
    Run.walk_keeps_apart apart under flow triggerType vars s
  have carried := walked.carry (fun t => t.store.getExecution id = some row)
    (fun t u between found => (apart.sameFor t u between).execution.trans found)
    (fun t u owed found => by rw [Store.getExecution, owed.2.1]; exact found) stored
  exact carried.weaken (runTerms id base others) (fun _ valid => valid)
    (fun _ _ between => between) fun _ _ owed => ⟨owed.1, owed.2.2⟩

/-- A run under an id keeps its terms and ends as it should, whatever the others
do meanwhile. -/
theorem runFlow_keeps (apart : Apart id others) (engine : Engine) (flow : Flow)
    (request : FlowRequest) {s t : Shared} (before : others s t) :
    Keeps answering (runTerms id base others) (Outcome id request others s)
      (engine.runFlow flow id request) t := by
  unfold runFlow
  apply (openExecution_keeps apart request before).bind
  intro opened u opening
  cases opened with
  | error e =>
      obtain ⟨rejected, untouched⟩ := opening
      simpa [Outcome, rejected] using untouched
  | ok row =>
      apply (walk_keeps_row apart rfl flow _ _ opening.stored).bind
      rintro progress v ⟨ends, stored⟩
      exact finish_keeps apart ⟨stored, opening.executionId, opening.error, opening.carries⟩ ends

theorem executeUnder_keeps (apart : Apart id others) (engine : Engine) (request : FlowRequest)
    {s t : Shared} (before : others s t) :
    Keeps answering (runTerms id base others)
      (fun result u =>
        Outcome id request others s result u ∧ ∀ given, result = .ok given → given = id)
      (engine.executeUnder id request) t := by
  simp only [executeUnder, Service.store_bind]
  rintro u between _ result _ ⟨_, rfl, rfl⟩
  refine ⟨runTerms_guarantee_refl u, ?_⟩
  have untouched := apart.trans before between
  simp only [Store.answer]
  cases u.store.getFlow request.flowId with
  | none => simpa [Outcome, EngineError.isRejection, EngineError.Rejects] using untouched
  | some flow =>
      by_cases enabled : flow.enabled
      · simp only [enabled, if_true]
        apply (runFlow_keeps apart engine flow request untouched).bind
        intro result v outcome
        cases result with
        | ok value => exact ⟨outcome, fun given same => (Except.ok.inj same).symm⟩
        | error e => exact ⟨outcome, fun given same => by contradiction⟩
      · simpa [enabled, Outcome, EngineError.isRejection, EngineError.Rejects] using untouched

/-- A run under a given id that is not blank is a run under that id. -/
theorem execute_of_given (engine : Engine) (request : FlowRequest) {given : ExecutionId}
    (named : given.isBlank = false) :
    engine.execute (some given) request = engine.executeUnder given request := by
  simp [execute, Option.filter, named]

end Engine

end EventFlow
