import EventFlow.Proofs.Engine.Execution
import EventFlow.Proofs.Queue.History

/-!
# The execution that a job stands for

A job that has been tried without success has either left no trace in the store,
because its flow was missing or switched off every time, or an execution that has
failed.  From there a run leads to an execution that has succeeded, or again to one
of these two, as long as nobody else touches the rows of the execution.
-/

namespace EventFlow

open Program Shared

/-- Does the error say that there is no flow to execute? -/
def EngineError.isFlowCheck : EngineError → Bool
  | .flowNotFound _ => true
  | .flowDisabled _ => true
  | _ => false

namespace QueueJob

/-- The execution of the job has ended in a state; it belongs to the flow and
carries the event that the job asks for. -/
def EndedAs (job : QueueJob) (state : ExecutionState) (s : Store) : Prop :=
  ∃ row, s.getExecution job.executionId = some row ∧ row.flowId = job.args.flowId ∧
    row.triggerType = job.args.triggerType ∧ row.triggerId = job.args.triggerId ∧
    row.payload = job.args.payload ∧ row.state = state

/-- Nothing is stored of the execution, and no run of the job got past the checks of
its flow. -/
structure TurnedAway (job : QueueJob) (history : List QueueEvent) (s : Store) : Prop where
  noRow : s.getExecution job.executionId = none
  noJobs : s.listJobs job.executionId = []
  flowChecks : ∀ e, .returned job.id (.error e) ∈ history → e.isFlowCheck = true

/-- No run of the job has succeeded yet. -/
def Tried (job : QueueJob) (history : List QueueEvent) (s : Store) : Prop :=
  job.TurnedAway history s ∨ job.EndedAs .failed s

/-- What a store tells about the execution of a job that has been run. -/
def Told (job : QueueJob) (history : List QueueEvent) (s : Store) :
    Except EngineError ExecutionId → Prop
  | .ok _ => job.EndedAs .succeeded s
  | .error _ => job.Tried history s

section Others

variable {job : QueueJob} {s t : Store} {old new : List QueueEvent}

theorem EndedAs.of_sameFor {state : ExecutionState} (ended : job.EndedAs state s)
    (same : s.SameFor job.executionId t) : job.EndedAs state t := by
  obtain ⟨row, stored, carries⟩ := ended
  exact ⟨row, same.execution.trans stored, carries⟩

/-- Others touch neither the rows of the execution nor the errors of its runs. -/
theorem TurnedAway.of_sameFor (turned : job.TurnedAway old s) (same : s.SameFor job.executionId t)
    (errors : ∀ e, .returned job.id (.error e) ∈ new → .returned job.id (.error e) ∈ old) :
    job.TurnedAway new t where
  noRow := same.execution.trans turned.noRow
  noJobs := same.jobs.trans turned.noJobs
  flowChecks e eMem := turned.flowChecks e (errors e eMem)

theorem Tried.of_sameFor (tried : job.Tried old s) (same : s.SameFor job.executionId t)
    (errors : ∀ e, .returned job.id (.error e) ∈ new → .returned job.id (.error e) ∈ old) :
    job.Tried new t := by
  rcases tried with turned | ended
  · exact .inl (turned.of_sameFor same errors)
  · exact .inr (ended.of_sameFor same)

theorem Told.of_sameFor {outcome : Except EngineError ExecutionId} (told : job.Told old s outcome)
    (same : s.SameFor job.executionId t)
    (errors : ∀ e, .returned job.id (.error e) ∈ new → .returned job.id (.error e) ∈ old) :
    job.Told new t outcome := by
  cases outcome with
  | ok given => exact EndedAs.of_sameFor told same
  | error e => exact Tried.of_sameFor told same errors

end Others

section Identity

variable {job new : QueueJob} {history : List QueueEvent} {s : Store}

/-- Only what is fixed about a job counts. -/
theorem EndedAs.of_identity {state : ExecutionState} (ended : job.EndedAs state s)
    (same : new.identity = job.identity) : new.EndedAs state s := by
  simp only [identity, Prod.mk.injEq] at same
  obtain ⟨_, _, executionId, args, _⟩ := same
  simpa only [EndedAs, executionId, args] using ended

theorem Tried.of_identity (tried : job.Tried history s) (same : new.identity = job.identity) :
    new.Tried history s := by
  have identities := same
  simp only [identity, Prod.mk.injEq] at same
  obtain ⟨id, _, executionId, _⟩ := same
  rcases tried with turned | ended
  · exact .inl ⟨executionId ▸ turned.noRow, executionId ▸ turned.noJobs, id ▸ turned.flowChecks⟩
  · exact .inr (ended.of_identity identities)

end Identity

/-! ## A run -/

/-- What others may do beside a run of an execution. -/
def beside (id : ExecutionId) (s t : Shared) : Prop := s.store.SameFor id t.store

theorem apart_beside (id : ExecutionId) : Apart id (beside id) where
  refl s := .refl id s.store
  trans first second := first.trans second
  sameFor _ _ same := same

/-- What is left of a run of the job keeps to the rows of its execution, and the
store will tell how it ended. -/
def Underway (job : QueueJob) (history : List QueueEvent) (s : Shared)
    (rest : Routine (Except EngineError ExecutionId)) : Prop :=
  ∃ base, base ≤ s.store.lastId ∧
    Keeps answering (Engine.runTerms job.executionId base (beside job.executionId))
      (fun outcome t => job.Told (.returned job.id outcome :: history) t.store outcome) rest s

variable {job : QueueJob} {history : List QueueEvent} {s t : Shared}

theorem endedAs_of_ended {before : Option Execution} {state : ExecutionState}
    {error : Option String} {s : Store}
    (ended : Engine.Ended job.executionId job.args before state error s) : job.EndedAs state s := by
  obtain ⟨row, stored, carries, state, _⟩ := ended
  exact ⟨row, stored, carries.flowId, carries.triggerType, carries.triggerId, carries.payload,
    state⟩

/-- A job that is turned away stays untried as far as the store knows. -/
theorem Tried.of_rejects (tried : job.Tried history s.store) {e : EngineError}
    (rejects : e.Rejects job.args (s.store.getExecution job.executionId))
    (same : s.store.SameFor job.executionId t.store) :
    job.Tried (.returned job.id (.error e) :: history) t.store := by
  rcases tried with turned | ended
  · refine .inl ⟨same.execution.trans turned.noRow, same.jobs.trans turned.noJobs, ?_⟩
    intro other otherMem
    rcases List.mem_cons.mp otherMem with here | before
    · cases here
      rw [turned.noRow] at rejects
      cases e <;> simp_all [EngineError.Rejects, EngineError.isFlowCheck]
    · exact turned.flowChecks other before
  · exact .inr (ended.of_sameFor same)

/-- A run of a job that has been tried without success ends as the store tells. -/
theorem Tried.underway (tried : job.Tried history s.store)
    (named : job.executionId.isBlank = false) (engine : Engine) :
    job.Underway history s (engine.execute (some job.executionId) job.args) := by
  refine ⟨s.store.lastId, Int.le_refl _, ?_⟩
  rw [Engine.execute_of_given engine job.args named]
  have kept : Keeps answering
      (Engine.runTerms job.executionId s.store.lastId (beside job.executionId)) _ _ s :=
    Engine.executeUnder_keeps (apart_beside job.executionId) engine job.args
      (.refl job.executionId s.store)
  apply kept.imp
  rintro outcome t ⟨ended, _⟩
  cases outcome with
  | ok given => exact endedAs_of_ended ended
  | error e =>
      simp only [Engine.Outcome] at ended
      split at ended
      · exact tried.of_rejects ended.1 ended.2
      · exact .inr (endedAs_of_ended ended)

namespace Underway

variable {rest : Routine (Except EngineError ExecutionId)}

/-- Others do not disturb a run. -/
theorem of_sameFor (underway : job.Underway history s rest)
    (same : s.store.SameFor job.executionId t.store) {events : List QueueEvent}
    (others : ∀ event ∈ events, event.job ≠ job.id) : job.Underway (events ++ history) t rest := by
  obtain ⟨base, early, kept⟩ := underway
  refine ⟨base, Int.le_trans early same.lastId_le, ?_⟩
  have stays := kept.after (fun first second => first.trans second)
    (fun outcome u v same told => told.of_sameFor same fun _ mem => mem) same
  apply stays.imp
  intro outcome u told
  apply told.of_sameFor (.refl _ _)
  intro e eMem
  simp only [List.mem_cons, List.mem_append] at eMem ⊢
  rcases eMem with here | foreign | before
  · exact .inl here
  · exact absurd rfl (others _ foreign)
  · exact .inr before

/-- A run goes on, and changes only rows of its execution. -/
theorem answer {q : ServiceCall} {a : q.Answer}
    {next : q.Answer → Routine (Except EngineError ExecutionId)}
    (underway : job.Underway history s (.ask q next)) (wellFormed : s.store.WellFormed)
    (answered : s.Answers q a t) :
    job.Underway history t (next a) ∧ ∃ base, s.store.ChangesOnly job.executionId base t.store := by
  obtain ⟨base, early, kept⟩ := underway
  obtain ⟨⟨_, changes⟩, after⟩ :=
    kept s (.refl job.executionId s.store) ⟨wellFormed, early⟩ a t answered
  exact ⟨⟨base, Int.le_trans early changes.lastId_le, after⟩, base, changes⟩

theorem told {outcome : Except EngineError ExecutionId}
    (underway : job.Underway history s (.done outcome)) :
    job.Told (.returned job.id outcome :: history) s.store outcome := by
  obtain ⟨_, _, told⟩ := underway
  exact told

end Underway

end QueueJob

end EventFlow
