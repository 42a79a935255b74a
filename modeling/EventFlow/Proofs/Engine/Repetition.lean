import EventFlow.Proofs.Engine.Forecast

/-!
# Repeating a run

What a run leaves behind is foretold by the rows of its flow and by the request.  So two
runs of a flow for one event are alike, whatever their ids are, whenever they take place and
whatever else is stored; and a run that is repeated under its id writes the row again that
it has written before.
-/

namespace EventFlow

open Program

/-! ## Rows -/

namespace Execution

variable {id otherId : ExecutionId} {request : FlowRequest} {before otherBefore : Option Execution}
  {row other again : Execution}

/-- A row that is opened has the variables that it had before, and a new one has none. -/
theorem Opens.vars (opens : row.Opens id request before) :
    row.vars = (before.map (·.vars)).getD [] := by
  rcases opens with ⟨first, _, rfl, _, _, rfl | ⟨rfl, created, rfl⟩⟩ <;> rfl

/-- What the row of an execution tells beside its id, its variables and its times. -/
def essence (row : Execution) : Execution :=
  { row with
    executionId := ⟨""⟩
    vars := []
    startedAt := none
    finishedAt := none
    createdAt := .ofMilliseconds 0
    updatedAt := .ofMilliseconds 0 }

/-- Rows that have been opened for one request and closed after walks that came to the same
tell the same. -/
theorem Opens.essence_closedWith (opens : row.Opens id request before)
    (otherOpens : other.Opens otherId request otherBefore) (now later : Instant)
    (progress : Run.Progress) :
    (row.closedWith now progress).essence = (other.closedWith later progress).essence := by
  rcases opens with ⟨first, _, rfl, _, flowId, _⟩
  rcases otherOpens with ⟨second, _, rfl, _, otherFlowId, _⟩
  rcases progress with ⟨vars, (e | message) | _⟩
  all_goals
    simp only [closedWith, succeed, fail, start, essence, flowId, otherFlowId]

/-- The rows tell the same of an execution but for the time of its end. -/
def SameButEnd (row again : Execution) : Prop :=
  again = { row with finishedAt := again.finishedAt, updatedAt := again.updatedAt }

theorem SameButEnd.refl (row : Execution) : row.SameButEnd row := rfl

/-- A row that is opened again and closed after a walk that came to the same is the one that was
closed before, but for the time of its end. -/
theorem Opens.closedWith_again (opens : row.Opens id request before) {now : Instant}
    {progress : Run.Progress}
    (reopens : again.Opens id request (some (row.closedWith now progress))) (later : Instant) :
    (row.closedWith now progress).SameButEnd (again.closedWith later progress) := by
  rcases opens with ⟨first, start, rfl, _⟩
  rcases reopens with ⟨second, _, rfl, _, _, stored | ⟨none, _⟩⟩
  · cases stored
    rcases progress with ⟨vars, (e | message) | _⟩ <;> rfl
  · contradiction

end Execution

namespace Store

/-- The rows of a flow are the same in both stores. -/
structure SameFlow (flowId : FlowId) (s t : Store) : Prop where
  flow : t.getFlow flowId = s.getFlow flowId
  nodes : t.listNodes flowId = s.listNodes flowId
  edges : t.listEdges flowId = s.listEdges flowId

theorem SameFlow.trans {flowId : FlowId} {s t u : Store} (first : SameFlow flowId s t)
    (second : SameFlow flowId t u) : SameFlow flowId s u :=
  ⟨second.flow.trans first.flow, second.nodes.trans first.nodes, second.edges.trans first.edges⟩

/-- An execution of a flow may be run under the id: it is unused, or it belongs to the flow
already. -/
def Accepts (s : Store) (flowId : FlowId) (id : ExecutionId) : Prop :=
  ∀ row ∈ s.getExecution id, row.flowId = flowId

instance {s : Store} {flowId : FlowId} {id : ExecutionId} : Decidable (s.Accepts flowId id) :=
  inferInstanceAs (Decidable (∀ row ∈ s.getExecution id, row.flowId = flowId))

end Store

namespace Engine

variable {s t : Store} {id otherId : ExecutionId} {request : FlowRequest} {flowId : FlowId}

theorem bound?_eq_none_iff : bound? s id flowId = none ↔ s.Accepts flowId id := by
  simp [bound?, Store.Accepts, Option.bind_eq_none_iff]

/-- Whether a request is refused depends on its flow and on whether the id is bound. -/
theorem refusal?_congr (sameFlow : t.getFlow request.flowId = s.getFlow request.flowId)
    (sameBound : bound? t otherId request.flowId = bound? s id request.flowId) :
    refusal? t otherId request = refusal? s id request := by
  rw [refusal?, sameFlow, sameBound, refusal?]

/-- What is not refused has a flow that is switched on, and the id is not bound. -/
theorem exists_flow_of_accepted (accepted : refusal? s id request = none) :
    ∃ flow, s.getFlow request.flowId = some flow ∧ flow.enabled = true ∧
      s.Accepts request.flowId id := by
  unfold refusal? at accepted
  split at accepted
  · contradiction
  · rename_i flow found
    split at accepted
    · rename_i enabled
      exact ⟨flow, found, enabled, bound?_eq_none_iff.mp accepted⟩
    · contradiction

end Engine

/-- Forecasts agree on all that a run shows of them: the calls, the jobs, and what is gathered
in the end. -/
structure Forecast.Agrees (first second : Forecast) : Prop where
  calls : first.calls = second.calls
  jobs : first.jobs = second.jobs
  progress : first.progress = second.progress

theorem Forecast.Agrees.refl (forecast : Forecast) : forecast.Agrees forecast :=
  ⟨rfl, rfl, rfl⟩

/-- What a store refuses is rejected. -/
theorem Engine.Refuses.isRejection {s : Store} {id : ExecutionId} {request : FlowRequest}
    {e : EngineError} (refuses : Engine.Refuses s id request e) : e.isRejection = true := by
  cases refuses <;> rfl

/-- What is to be expected of the walk for a request, from the rows of its flow. -/
def Engine.forecastFor (engine : Engine) (replies : Replies) (flow : Flow) (request : FlowRequest)
    (s : Store) : Forecast :=
  engine.forecast ⟨flow.id, flow.uid, flow.topic, engine.config.nodeTimeout⟩ replies
    (.ofRows (s.listNodes request.flowId) (s.listEdges request.flowId)) request.flowId
    request.triggerType []
    (initialVariables request.payload request.triggerType request.triggerId)

theorem Engine.forecastFor_congr {engine : Engine} {replies : Replies} {flow : Flow}
    {request : FlowRequest} {s t : Store} (same : s.SameFlow request.flowId t) :
    engine.forecastFor replies flow request t = engine.forecastFor replies flow request s := by
  rw [forecastFor, same.nodes, same.edges, forecastFor]

/-! ## Attempts -/

/-- A run under an id as it has taken place: the tables before and after it, the rules that it
has called, and what it has returned. -/
structure Attempt where
  id : ExecutionId
  before : Shared
  after : Shared
  calls : List RuleCall
  result : Except EngineError ExecutionId

namespace Attempt

/-- The run executes a flow for a request. -/
structure Executes (attempt : Attempt) (engine : Engine) (replies : Replies)
    (request : FlowRequest) : Prop where
  wellFormed : attempt.before.store.WellFormed
  named : attempt.id.isBlank = false
  ran : Runs replies.answering (engine.execute (some attempt.id) request) ⟨attempt.before, []⟩
    attempt.result ⟨attempt.after, attempt.calls⟩

/-- The run is rejected, and nothing else has happened. -/
structure RejectedWith (attempt : Attempt) (e : EngineError) : Prop where
  rejection : e.isRejection = true
  result : attempt.result = .error e
  unchanged : attempt.after = attempt.before
  uncalled : attempt.calls = []

/-- The run has opened its execution, and has come to what a forecast says. -/
structure ForetoldBy (attempt : Attempt) (request : FlowRequest) (forecast : Forecast) : Prop where
  result : attempt.result = (Engine.resultOf forecast.progress.2).map fun _ => attempt.id
  calls : attempt.calls = forecast.calls
  jobs : ∃ recorded, attempt.after.store.jobs = attempt.before.store.jobs ++ recorded ∧
    recorded.map Job.essence = forecast.jobs ∧ ∀ job ∈ recorded, job.executionId = attempt.id
  sameFlow : attempt.before.store.SameFlow request.flowId attempt.after.store
  row : ∃ (row : Execution) (now : Instant),
    row.Opens attempt.id request (attempt.before.store.getExecution attempt.id) ∧
      attempt.after.store.getExecution attempt.id = some (row.closedWith now forecast.progress)

variable {engine : Engine} {replies : Replies} {request : FlowRequest} {first second : Attempt}

theorem foretoldBy_of_parts {flow : Flow} {row : Execution} {progress : Run.Progress}
    {opened walked : Watched} (wellFormed : first.before.store.WellFormed)
    (parts : Engine.Parts replies.answering engine first.id request ⟨first.before, []⟩
      ⟨first.after, first.calls⟩ flow row progress opened walked)
    (result : first.result = (Engine.resultOf progress.2).map fun _ => first.id) :
    first.ForetoldBy request (engine.forecastFor replies flow request first.before.store) := by
  have stays := (replies.narrows.runs parts.opening).wellFormed wellFormed
  rcases parts.row replies.narrows with ⟨opens, ⟨executions, rfl⟩, ⟨closed, left⟩, now, stored⟩
  rcases Run.runs_walk_follows stays parts.walking with ⟨reached, log, rfl, follows⟩
  rw [parts.flow_id] at reached follows
  have foreseen :
      progress = (engine.forecastFor replies flow request first.before.store).progress := reached
  rw [foreseen] at result stored
  -- Opening and closing write executions only, so that the jobs are those of the walk.
  have tables : first.after.store =
      { first.before.store.withJobs (log.map (·.job)) with executions := closed } :=
    congrArg (fun s : Watched => s.state.store) left
  refine ⟨result, (congrArg Noted.notes left).trans follows.calls, ?_, ?_, row, now, opens, stored⟩
  · refine ⟨log.map (·.job), by rw [tables]; rfl, ?_, List.forall_mem_map.mpr follows.executionIds⟩
    rw [List.map_map]
    exact follows.jobs
  · rw [tables]
    exact ⟨rfl, rfl, rfl⟩

/-- A run is rejected, or it comes to what is foretold. -/
theorem Executes.rejected_or_foretold (executes : first.Executes engine replies request) :
    (∃ e, Engine.refusal? first.before.store first.id request = some e ∧ first.RejectedWith e) ∨
      ∃ flow, Engine.refusal? first.before.store first.id request = none ∧
        first.before.store.getFlow request.flowId = some flow ∧
        first.ForetoldBy request (engine.forecastFor replies flow request first.before.store) := by
  have ran := executes.ran
  rw [Engine.execute_of_given engine request executes.named] at ran
  rcases Engine.runs_executeUnder_parts replies.narrows ran with
    ⟨e, rejected, refused, left⟩ | ⟨flow, row, progress, opened, walked, parts, result⟩
  · exact .inl ⟨e, refused, (Engine.Refuses.of_refusal? refused).isRejection, rejected,
      congrArg Noted.state left, congrArg Noted.notes left⟩
  · exact .inr ⟨flow, parts.accepted replies.narrows, parts.found,
      foretoldBy_of_parts executes.wellFormed parts result⟩

/-- An execution is a run under the id that is given, or under one that no execution has. -/
theorem exists_executes_of_runs {given : Option ExecutionId} {before after : Shared}
    {calls : List RuleCall} {result : Except EngineError ExecutionId}
    (wellFormed : before.store.WellFormed)
    (ran : Runs replies.answering (engine.execute given request) ⟨before, []⟩ result
      ⟨after, calls⟩) :
    ∃ id, Executes ⟨id, before, after, calls, result⟩ engine replies request ∧
      (∀ named, given = some named → named.isBlank = false → id = named) ∧
      (given = some id ∨ before.store.getExecution id = none) := by
  rcases Engine.runs_execute_narrowed replies.narrows ran with ⟨id, named, given_eq, origin, ran⟩
  refine ⟨id, ⟨wellFormed, named, ?_⟩, given_eq, origin.imp_right And.right⟩
  rw [Engine.execute_of_given engine request named]
  exact ran

/-- A run leaves the rows of its flow as they are. -/
theorem Executes.sameFlow (executes : first.Executes engine replies request) :
    first.before.store.SameFlow request.flowId first.after.store := by
  rcases executes.rejected_or_foretold with ⟨_, _, rejected⟩ | ⟨_, _, _, foretold⟩
  · rw [rejected.unchanged]
    exact ⟨rfl, rfl, rfl⟩
  · exact foretold.sameFlow

/-- A run that succeeds returns its id. -/
theorem Executes.result_eq (executes : first.Executes engine replies request) :
    first.result = first.result.map fun _ => first.id := by
  rcases executes.rejected_or_foretold with ⟨_, _, rejected⟩ | ⟨_, _, _, foretold⟩
  · rw [rejected.result]
    rfl
  · rw [foretold.result]
    cases Engine.resultOf _ <;> rfl

/-! ## Runs that are alike -/

/-- The variables that were stored of the execution before the run. -/
def varsBefore (attempt : Attempt) : Bag :=
  ((attempt.before.store.getExecution attempt.id).map (·.vars)).getD []

/-- Two runs differ in their ids and in times only: they return the same error or succeed, call
the same rules, record jobs that tell the same, and either both are rejected and store nothing,
or both leave a row that tells the same.  The rows also agree in the variables, unless a rule
broke down and other variables were stored before. -/
structure Alike (first second : Attempt) : Prop where
  result : (first.result.map fun _ => ()) = second.result.map fun _ => ()
  calls : first.calls = second.calls
  jobs : ∃ these those, first.after.store.jobs = first.before.store.jobs ++ these ∧
    second.after.store.jobs = second.before.store.jobs ++ those ∧
    these.map Job.essence = those.map Job.essence ∧
    (∀ job ∈ these, job.executionId = first.id) ∧ ∀ job ∈ those, job.executionId = second.id
  rows : (∃ e, first.result = .error e ∧ e.isRejection = true ∧
      first.after.store = first.before.store ∧ second.after.store = second.before.store) ∨
    ∃ row other, first.after.store.getExecution first.id = some row ∧
      second.after.store.getExecution second.id = some other ∧ row.essence = other.essence ∧
      ((∀ message, first.result ≠ .error (.panicked message)) ∨
        first.varsBefore = second.varsBefore → row.vars = other.vars)

variable {engine : Engine} {replies : Replies} {request : FlowRequest} {first second : Attempt}

/-- Only the stores before and after the runs count. -/
theorem Alike.of_same_store {before after : Shared} (alike : first.Alike second)
    (sameBefore : before.store = first.before.store) (sameAfter : after.store = first.after.store) :
    Alike { first with before, after } second := by
  rcases alike with ⟨result, calls, jobs, rows⟩
  rw [← sameBefore, ← sameAfter] at jobs rows
  refine ⟨result, calls, jobs, ?_⟩
  rw [varsBefore, ← sameBefore] at rows
  exact rows

/-- What a run returns is what a run returns that is like it, but for the id. -/
theorem Executes.result_of_alike (executes : first.Executes engine replies request)
    (alike : first.Alike second) : first.result = second.result.map fun _ => first.id :=
  calc
    first.result = (first.result.map fun _ => ()).map fun _ => first.id := by
      rw [executes.result_eq]
      cases first.result <;> rfl
    _ = (second.result.map fun _ => ()).map fun _ => first.id := by rw [alike.result]
    _ = second.result.map fun _ => first.id := by cases second.result <;> rfl

/-- Runs that are rejected for one reason are alike. -/
theorem RejectedWith.alike {e : EngineError} (rejected : first.RejectedWith e)
    (otherRejected : second.RejectedWith e) : first.Alike second where
  result := by rw [rejected.result, otherRejected.result]
  calls := by rw [rejected.uncalled, otherRejected.uncalled]
  jobs := ⟨[], [], by simp [rejected.unchanged], by simp [otherRejected.unchanged], rfl, by simp,
    by simp⟩
  rows := .inl ⟨e, rejected.result, rejected.rejection, by rw [rejected.unchanged],
    by rw [otherRejected.unchanged]⟩

/-- Runs of which forecasts tell that agree are alike. -/
theorem ForetoldBy.alike {forecast otherForecast : Forecast}
    (foretold : first.ForetoldBy request forecast)
    (otherForetold : second.ForetoldBy request otherForecast)
    (agree : forecast.Agrees otherForecast) : first.Alike second := by
  rcases foretold.row with ⟨row, now, opens, stored⟩
  rcases otherForetold.row with ⟨other, later, otherOpens, otherStored⟩
  have otherResult := otherForetold.result
  rw [← agree.progress] at otherStored otherResult
  refine ⟨?_, ?_, ?_, .inr ⟨_, _, stored, otherStored, ?_, ?_⟩⟩
  · rw [foretold.result, otherResult]
    cases Engine.resultOf forecast.progress.2 <;> rfl
  · rw [foretold.calls, agree.calls, otherForetold.calls]
  · rcases foretold.jobs with ⟨these, recorded, told, ids⟩
    rcases otherForetold.jobs with ⟨those, otherRecorded, otherTold, otherIds⟩
    refine ⟨these, those, recorded, otherRecorded, ?_, ids, otherIds⟩
    rw [told, agree.jobs, otherTold]
  · exact opens.essence_closedWith otherOpens now later forecast.progress
  · -- When a rule broke down, a row keeps the variables with which it was opened.
    rw [Engine.vars_closedWith, Engine.vars_closedWith]
    rintro (unbroken | sameBefore)
    · have sound : ∀ message, forecast.progress.2 ≠ .error (.panicked message) := by
        intro message broke
        apply unbroken message
        rw [foretold.result, broke]
        rfl
      rw [Engine.finalVars_of_unbroken sound, Engine.finalVars_of_unbroken sound]
    · have sameVars : row.vars = other.vars :=
        opens.vars.trans (sameBefore.trans otherOpens.vars.symm)
      rcases forecast.progress with ⟨vars, (e | message) | _⟩
      · rfl
      · exact sameVars
      · rfl

/-- Runs are alike if their flow is the same, ids are bound alike and the forecasts agree. -/
theorem Executes.alike_of_agree (executes : first.Executes engine replies request)
    (otherExecutes : second.Executes engine replies request)
    (same : second.before.store.getFlow request.flowId = first.before.store.getFlow request.flowId)
    (sameBound : Engine.bound? second.before.store second.id request.flowId =
      Engine.bound? first.before.store first.id request.flowId)
    (agree : ∀ flow, first.before.store.getFlow request.flowId = some flow →
      Engine.refusal? first.before.store first.id request = none →
      (engine.forecastFor replies flow request first.before.store).Agrees
        (engine.forecastFor replies flow request second.before.store)) :
    first.Alike second := by
  -- Both are refused, and for the same reason, or none is.
  have refusals := Engine.refusal?_congr same sameBound
  rcases executes.rejected_or_foretold with
    ⟨e, refused, rejected⟩ | ⟨flow, accepted, found, foretold⟩
  · rcases otherExecutes.rejected_or_foretold with
      ⟨other, otherRefused, otherRejected⟩ | ⟨_, otherAccepted, _⟩
    · obtain rfl := Option.some.inj (refused.symm.trans (refusals.symm.trans otherRefused))
      exact rejected.alike otherRejected
    · simp [refusals, refused] at otherAccepted
  · rcases otherExecutes.rejected_or_foretold with
      ⟨other, otherRefused, _⟩ | ⟨_, _, otherFound, otherForetold⟩
    · simp [refusals, accepted] at otherRefused
    · obtain rfl := Option.some.inj (otherFound.symm.trans (same.trans found))
      exact foretold.alike otherForetold (agree _ found accepted)

/-- Runs of a flow for one request are alike, wherever the flow has the same rows and accepts
the ids. -/
theorem Executes.alike (executes : first.Executes engine replies request)
    (otherExecutes : second.Executes engine replies request)
    (accepts : first.before.store.Accepts request.flowId first.id)
    (otherAccepts : second.before.store.Accepts request.flowId second.id)
    (same : first.before.store.SameFlow request.flowId second.before.store) :
    first.Alike second := by
  have unbound := Engine.bound?_eq_none_iff.mpr accepts
  have otherUnbound := Engine.bound?_eq_none_iff.mpr otherAccepts
  apply executes.alike_of_agree otherExecutes same.flow (otherUnbound.trans unbound.symm)
  intro flow _ _
  rw [Engine.forecastFor_congr same]
  exact .refl _

/-! ## Runs that are repeated -/

/-- A run that comes to the same again writes the row again that it finds. -/
theorem ForetoldBy.row_again {forecast : Forecast} (foretold : first.ForetoldBy request forecast)
    (foretoldAgain : second.ForetoldBy request forecast) (sameId : second.id = first.id)
    (sameRow : second.before.store.getExecution first.id = first.after.store.getExecution first.id)
    {row : Execution} (written : first.after.store.getExecution first.id = some row) :
    ∃ rewritten, second.after.store.getExecution first.id = some rewritten ∧
      row.SameButEnd rewritten := by
  rcases foretold.row with ⟨opened, now, opens, stored⟩
  rcases foretoldAgain.row with ⟨reopened, later, reopens, storedAgain⟩
  cases stored.symm.trans written
  rw [sameId] at reopens storedAgain
  rw [sameRow, stored] at reopens
  exact ⟨_, storedAgain, opens.closedWith_again reopens later⟩

/-- The row that a run has written belongs to the flow. -/
theorem ForetoldBy.accepts {forecast : Forecast} (foretold : first.ForetoldBy request forecast) :
    first.after.store.Accepts request.flowId first.id := by
  intro row stored
  rcases foretold.row with ⟨opened, now, ⟨start, _, rfl, _, own, _⟩, kept⟩
  cases kept.symm.trans stored
  rcases forecast.progress with ⟨vars, (e | message) | _⟩ <;> exact own

/-- A run does not bind its id to another flow. -/
theorem Executes.bound?_after (executes : first.Executes engine replies request) :
    Engine.bound? first.after.store first.id request.flowId =
      Engine.bound? first.before.store first.id request.flowId := by
  rcases executes.rejected_or_foretold with ⟨_, _, rejected⟩ | ⟨_, accepted, _, foretold⟩
  · rw [rejected.unchanged]
  · rcases Engine.exists_flow_of_accepted accepted with ⟨_, _, _, accepts⟩
    rw [Engine.bound?_eq_none_iff.mpr accepts, Engine.bound?_eq_none_iff.mpr foretold.accepts]

/-- A run that is repeated under its id later on, when the flow has the same rows, returns the
same and writes the row again that the first run has written. -/
theorem Executes.again (executes : first.Executes engine replies request)
    (repeats : second.Executes engine replies request) (sameId : second.id = first.id)
    (same : first.after.store.SameFlow request.flowId second.before.store)
    (sameRow : second.before.store.getExecution first.id =
      first.after.store.getExecution first.id) :
    second.result = first.result ∧
      ∀ row, first.after.store.getExecution first.id = some row →
        ∃ rewritten, second.after.store.getExecution first.id = some rewritten ∧
          row.SameButEnd rewritten := by
  have sameFlow := executes.sameFlow.trans same
  have sameBound : Engine.bound? second.before.store second.id request.flowId =
      Engine.bound? first.before.store first.id request.flowId := by
    rw [← executes.bound?_after, sameId, Engine.bound?, sameRow, Engine.bound?]
  have refusals := Engine.refusal?_congr sameFlow.flow sameBound
  rcases executes.rejected_or_foretold with
    ⟨e, refused, rejected⟩ | ⟨flow, accepted, found, foretold⟩
  · rcases repeats.rejected_or_foretold with
      ⟨other, refusedAgain, rejectedAgain⟩ | ⟨_, acceptedAgain, _⟩
    · obtain rfl := Option.some.inj (refused.symm.trans (refusals.symm.trans refusedAgain))
      refine ⟨rejectedAgain.result.trans rejected.result.symm,
        fun row stored => ⟨row, ?_, .refl row⟩⟩
      rw [rejectedAgain.unchanged, sameRow, stored]
    · simp [refusals, refused] at acceptedAgain
  · rcases repeats.rejected_or_foretold with
      ⟨other, refusedAgain, _⟩ | ⟨_, _, foundAgain, foretoldAgain⟩
    · simp [refusals, accepted] at refusedAgain
    · obtain rfl := Option.some.inj (foundAgain.symm.trans (sameFlow.flow.trans found))
      rw [Engine.forecastFor_congr sameFlow] at foretoldAgain
      refine ⟨?_, fun row => foretold.row_again foretoldAgain sameId sameRow⟩
      rw [foretoldAgain.result, foretold.result, sameId]

end Attempt

end EventFlow
