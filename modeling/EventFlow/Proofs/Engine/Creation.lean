import EventFlow.Proofs.Engine.Questions
import EventFlow.Proofs.Store.Listing
import EventFlow.Proofs.Timed

/-!
# What a run creates

A run creates the row of its execution, unless one is stored under its id, and it does
so at an instant that the clock shows during the run.  All that it writes besides keeps
the flow and the time of creation of the row that it replaces.
-/

namespace EventFlow

open Program

/-- Between two states one execution of a flow is created at the most. -/
inductive Creates (shows : Instant → Prop) (flowId : FlowId) (s t : Timed) : Prop where
  | nothing (same : t.state.store.origins = s.state.store.origins)
  | one (created : Instant) (passes : s.Passes shows t created)
      (added : t.state.store.origins = (flowId, created) :: s.state.store.origins)

/-- What was created by then has been created later on, when nothing else has been. -/
theorem Creates.later {shows : Instant → Prop} {flowId : FlowId} {s t u : Timed}
    (creates : Creates shows flowId s t)
    (same : u.state.store.origins = t.state.store.origins) (clock_le : t.clock ≤ u.clock) :
    Creates shows flowId s u := by
  cases creates with
  | nothing before => exact .nothing (same.trans before)
  | one created passes added =>
      exact .one created (passes.widen (Instant.le_refl _) clock_le) (same.trans added)

namespace Engine

variable {shows : Instant → Prop} {id : ExecutionId} {request : FlowRequest} {s t : Timed}

/-- A row that is replaced by one of the same origin leaves the origins as they are. -/
theorem runs_replace {α : Type} {row old : Execution}
    {next : Except StoreError Unit → Routine α} {r : α}
    (ran : Runs (timing shows)
      (.ask (ServiceCall.store (.updateExecution row) : service.Question) next) s r t)
    (present : s.state.store.getExecution row.executionId = some old)
    (flowId : row.flowId = old.flowId) (createdAt : row.createdAt = old.createdAt) :
    ∃ u : Timed, u.state.store.origins = s.state.store.origins ∧
      u.state.store.getExecution row.executionId = some row ∧
      Runs (timing shows) (next (.ok ())) u r t := by
  rcases timing_store_iff.mp ran with ⟨_, ran⟩
  rcases Store.updateExecution_of_present row 0 present with ⟨after, updated, stored, _⟩
  simp only [Store.answer, updated, Store.changed] at ran
  exact ⟨⟨{ s.state with store := after }, s.clock⟩,
    Store.origins_of_updateExecution present flowId createdAt updated, stored, ran⟩

/-! ## Opening -/

/-- A row that is started anew keeps its origin. -/
theorem runs_reuse_timed {existing : Execution} {r : Except EngineError Execution}
    (found : s.state.store.getExecution id = some existing)
    (ran : Runs (timing shows) (reuse existing request) s r t) :
    t.state.store.origins = s.state.store.origins ∧
      ∀ row, r = .ok row → t.state.store.getExecution row.executionId = some row := by
  unfold reuse at ran
  split at ran
  · rcases runs_done_iff.mp ran with ⟨rfl, rfl⟩
    exact ⟨rfl, by simp⟩
  · simp only [Service.now_bind, Service.store_bind] at ran
    rcases timing_now_iff.mp ran with ⟨now, _, _, ran⟩
    have present : s.state.store.getExecution existing.executionId = some existing := by
      rw [Store.executionId_of_getExecution found]
      exact found
    rcases runs_replace ran present rfl rfl with ⟨u, same, stored, ran⟩
    rcases runs_done_iff.mp ran with ⟨rfl, rfl⟩
    constructor
    · exact same
    · rintro row ⟨⟩
      exact stored

/-- To open the row of an execution is to create it, or to start one that is stored. -/
theorem runs_openExecution_timed {r : Except EngineError Execution}
    (ran : Runs (timing shows) (openExecution id request) s r t) :
    Creates shows request.flowId s t ∧
      ∀ row, r = .ok row → t.state.store.getExecution row.executionId = some row := by
  simp only [openExecution, Service.now_bind, Service.store_bind] at ran
  rcases timing_store_iff.mp ran with ⟨_, ran⟩
  simp only [Store.answer] at ran
  cases found : s.state.store.getExecution id with
  | some existing =>
      simp only [found] at ran
      rcases runs_reuse_timed found ran with ⟨same, stored⟩
      exact ⟨.nothing same, stored⟩
  | none =>
      simp only [found] at ran
      rcases timing_now_iff.mp ran with ⟨created, later, shown, ran⟩
      rcases timing_now_iff.mp ran with ⟨now, notEarlier, _, ran⟩
      rcases timing_store_iff.mp ran with ⟨_, ran⟩
      rcases Store.createExecution_of_absent ((Execution.create created id request.flowId).start now
        request.triggerType request.triggerId request.payload) 0 found
        with ⟨after, inserted, stored, _⟩
      simp only [Store.answer, inserted, Store.changed] at ran
      rcases runs_done_iff.mp ran with ⟨rfl, rfl⟩
      constructor
      · exact .one created ⟨later, notEarlier, shown⟩ (Store.origins_of_createExecution inserted)
      · rintro row ⟨⟩
        exact stored

/-! ## Running -/

/-- The row that is closed keeps its origin. -/
theorem runs_finish_timed {row : Execution} {progress : Run.Progress}
    {r : Except EngineError Unit}
    (opened : s.state.store.getExecution row.executionId = some row)
    (ran : Runs (timing shows) (finish row progress) s r t) :
    t.state.store.origins = s.state.store.origins := by
  rcases progress with ⟨vars, (e | message) | _⟩
  all_goals
    simp only [finish, close, Service.now_bind, Service.store_bind] at ran
    rcases timing_now_iff.mp ran with ⟨now, _, _, ran⟩
    rcases runs_replace ran opened rfl rfl with ⟨u, same, _, ran⟩
    rcases runs_done_iff.mp ran with ⟨_, rfl⟩
    exact same

theorem runs_runFlow {engine : Engine} {flow : Flow} {r : Except EngineError Unit}
    (ran : Runs (timing shows) (engine.runFlow flow id request) s r t) :
    Creates shows request.flowId s t := by
  unfold runFlow at ran
  rcases runs_bind_iff.mp ran with ⟨opened, u, opening, ran⟩
  rcases runs_openExecution_timed opening with ⟨creates, stored⟩
  cases opened with
  | error e =>
      rcases runs_done_iff.mp ran with ⟨_, rfl⟩
      exact creates
  | ok row =>
      rcases runs_bind_iff.mp ran with ⟨progress, v, walked, closing⟩
      have unchanged := Shared.executions_of_runs walked.unwatched
        ((Run.walk_asks _ _ _ _).mono fun _ => ServiceCall.besideExecutions_of_ofWalk)
      have remains : v.state.store.getExecution row.executionId = some row := by
        rw [Store.getExecution, unchanged]
        exact stored row rfl
      have same : t.state.store.origins = u.state.store.origins := by
        rw [runs_finish_timed remains closing, Store.origins, unchanged, Store.origins]
      exact creates.later same
        (Instant.le_trans (clock_le_of_runs walked) (clock_le_of_runs closing))

theorem runs_executeUnder_timed {engine : Engine} {r : Except EngineError ExecutionId}
    (ran : Runs (timing shows) (engine.executeUnder id request) s r t) :
    Creates shows request.flowId s t := by
  simp only [executeUnder, Service.store_bind] at ran
  rcases timing_store_iff.mp ran with ⟨_, ran⟩
  simp only [Store.answer] at ran
  cases found : s.state.store.getFlow request.flowId with
  | none =>
      simp only [found] at ran
      rcases runs_done_iff.mp ran with ⟨_, rfl⟩
      exact .nothing rfl
  | some flow =>
      simp only [found] at ran
      split at ran
      · rcases runs_bind_iff.mp ran with ⟨result, u, ranFlow, ended⟩
        have creates := runs_runFlow ranFlow
        cases result <;>
          rcases runs_done_iff.mp ended with ⟨_, rfl⟩ <;> exact creates
      · rcases runs_done_iff.mp ran with ⟨_, rfl⟩
        exact .nothing rfl

/-- Executing a flow creates one execution of it at the most. -/
theorem runs_execute_timed {engine : Engine} {given : Option ExecutionId}
    {r : Except EngineError ExecutionId}
    (ran : Runs (timing shows) (engine.execute given request) s r t) :
    Creates shows request.flowId s t := by
  unfold execute at ran
  cases usable : given.filter fun id => ! id.isBlank with
  | some id =>
      simp only [usable] at ran
      exact runs_executeUnder_timed ran
  | none =>
      simp only [usable, Service.freshId_bind] at ran
      rcases timing_freshId_iff.mp ran with ⟨id, _, ran⟩
      exact runs_executeUnder_timed ran

end Engine

end EventFlow
