import EventFlow.Proofs.Engine.Repetition

/-!
# A store that loses jobs

A store may fail to write jobs, for any reason and whenever it likes; then it stays as it was.
The writes of jobs are numbered in their order, and some numbers are marked: these writes fail.
A walk does not notice.  It comes to what is foreseen, and of its jobs those are left whose
creation has not failed: as they are foreseen, or still started if their end was not written.
-/

namespace EventFlow

open Program

/-! ## What is left of jobs -/

namespace Job

variable {fails : Nat → Bool} {n : Nat}

/-- The job as it is until its end is written. -/
def unfinished (job : Job) : Job :=
  { job with state := .start, result := [], error := none }

/-- What is left of a job when its first write has a number and some writes fail: nothing if it
is not created, and the started job if its end is not written. -/
def left? (fails : Nat → Bool) (n : Nat) (job : Job) : Option Job :=
  if fails n then none
  else if job.state ≠ .start ∧ fails (n + 1) then some job.unfinished
  else some job

/-- How many writes a job takes.  A job that is not created or does not end is written once. -/
def writes (fails : Nat → Bool) (n : Nat) (job : Job) : Nat :=
  if fails n ∨ job.state = .start then 1 else 2

/-- What is left of jobs that are recorded one after the other. -/
def leftOf (fails : Nat → Bool) : Nat → List Job → List Job
  | _, [] => []
  | n, job :: rest => (job.left? fails n).toList ++ leftOf fails (n + job.writes fails n) rest

/-- Nothing is lost where no write fails. -/
theorem leftOf_of_never (n : Nat) (jobs : List Job) : leftOf (fun _ => false) n jobs = jobs := by
  induction jobs generalizing n with
  | nil => rfl
  | cons job rest ih => simp [leftOf, left?, ih]

/-- Nothing is left where all writes fail. -/
theorem leftOf_of_always (n : Nat) (jobs : List Job) : leftOf (fun _ => true) n jobs = [] := by
  induction jobs generalizing n with
  | nil => rfl
  | cons job rest ih => simp [leftOf, left?, ih]

end Job

/-! ## Surroundings that lose jobs -/

/-- Does the question write a job? -/
def ServiceCall.writesJob : ServiceCall → Bool
  | .store (.createJob _) => true
  | .store (.updateJob _) => true
  | _ => false

/-- The answer to the question is that the store has failed. -/
def ServiceCall.Fails : (q : ServiceCall) → q.Answer → Prop
  | .store _, result => ∃ e, result = .error e
  | _, _ => False

/-- Tables and calls, and how many jobs have been asked to be written. -/
abbrev Tallied : Type := Noted Watched Nat

/-- The program writes no job. -/
abbrev SparesJobs {α : Type} (p : Routine α) : Prop :=
  Asks (fun q : service.Question => ServiceCall.writesJob q = false) p

namespace Replies

variable {replies : Replies} {fails : Nat → Bool}

/-- How a question may be answered where the marked writes of jobs fail. -/
def Loses (replies : Replies) (fails : Nat → Bool) (s : Tallied) (q : ServiceCall) (a : q.Answer)
    (t : Tallied) : Prop :=
  (t.notes = if q.writesJob then s.notes + 1 else s.notes) ∧
    if q.writesJob ∧ fails s.notes then q.Fails a ∧ t.state = s.state
    else replies.answering s.state q a t.state

/-- The answers of tables and rules where the marked writes of jobs fail. -/
abbrev losing (replies : Replies) (fails : Nat → Bool) : Answering service Tallied :=
  replies.Loses fails

/-- No question stays without an answer. -/
theorem exists_answers_losing (replies : Replies) (fails : Nat → Bool) (s : Tallied)
    (q : ServiceCall) : ∃ a t, replies.losing fails s q a t := by
  by_cases lost : q.writesJob = true ∧ fails s.notes = true
  · have failure : ∃ a, q.Fails a := by
      cases q with
      | store call => exact ⟨.error (.notFound .job ""), _, rfl⟩
      | _ => exact absurd lost.1 Bool.false_ne_true
    rcases failure with ⟨a, failed⟩
    refine ⟨a, ⟨s.state, s.notes + 1⟩, by rw [if_pos lost.1], ?_⟩
    rw [if_pos lost]
    exact ⟨failed, rfl⟩
  · rcases replies.exists_answers s.state q with ⟨a, t, answered⟩
    refine ⟨a, ⟨t, _⟩, rfl, ?_⟩
    rw [if_neg lost]
    exact answered

/-- Every program of a daemon runs to its end. -/
theorem exists_runs_losing {α : Type} (replies : Replies) (fails : Nat → Bool) (p : Routine α)
    (s : Tallied) : ∃ r t, Runs (replies.losing fails) p s r t :=
  Program.exists_runs (replies.exists_answers_losing fails) p s

section Runs

variable {α : Type} {s t : Tallied} {r : α}

/-- What is not lost is answered as ever. -/
theorem Loses.answers_or_same {q : ServiceCall} {a : q.Answer}
    (answered : replies.Loses fails s q a t) :
    replies.answering s.state q a t.state ∨ t.state = s.state := by
  rcases answered with ⟨_, answered⟩
  split at answered
  · exact .inr answered.2
  · exact .inl answered

theorem Loses.of_spares {q : ServiceCall} {a : q.Answer} (answered : replies.Loses fails s q a t)
    (spares : q.writesJob = false) :
    replies.answering s.state q a t.state ∧ t.notes = s.notes := by
  rcases answered with ⟨tally, answered⟩
  rw [spares] at tally answered
  simp only [Bool.false_eq_true, false_and, if_false] at tally answered
  exact ⟨answered, tally⟩

/-- A program that writes no job does not notice that jobs are lost. -/
theorem runs_of_spares {p : Routine α} (ran : Runs (replies.losing fails) p s r t)
    (spares : SparesJobs p) : Runs replies.answering p s.state r t.state ∧ t.notes = s.notes := by
  induction ran with
  | done value s => exact ⟨.done value s.state, rfl⟩
  | ask answered _ ih =>
      rcases answered.of_spares spares.1 with ⟨answered, same⟩
      rcases ih (spares.2 _) with ⟨rest, tally⟩
      exact ⟨.ask answered rest, tally.trans same⟩

theorem wellFormed_of_runs_losing {p : Routine α} (ran : Runs (replies.losing fails) p s r t)
    (wellFormed : s.state.state.store.WellFormed) : t.state.state.store.WellFormed := by
  apply ran.change_of_asks (asks_of_all fun _ => trivial)
    (fun u v => u.state.state.store.WellFormed → v.state.state.store.WellFormed) (fun _ => id)
    (fun _ _ _ first second holds => second (first holds)) _ wellFormed
  intro u q a v _ answered holds
  rcases answered.answers_or_same with answered | same
  · exact answered.1.1.wellFormed holds
  · rw [same]
    exact holds

theorem losing_now {f : Instant → Routine α}
    (ran : Runs (replies.losing fails) (.ask (ServiceCall.now : service.Question) f) s r t) :
    ∃ now, Runs (replies.losing fails) (f now) s r t := by
  rcases runs_ask_iff.mp ran with ⟨now, ⟨⟨u, calls⟩, tally⟩, answered, rest⟩
  rcases answered.of_spares rfl with ⟨⟨⟨same, noted⟩, _⟩, sameTally⟩
  obtain rfl : u = s.state.state := same
  obtain rfl : calls = s.state.notes := by simpa [noteCall, ServiceCall.ruleCall?] using noted
  obtain rfl : tally = s.notes := sameTally
  exact ⟨now, rest⟩

/-- The tables answer a call of the store that writes no job. -/
theorem losing_store {call : StoreCall} {f : Except StoreError call.Result → Routine α}
    (spares : (ServiceCall.store call).writesJob = false)
    (ran : Runs (replies.losing fails) (.ask (ServiceCall.store call : service.Question) f) s r t) :
    ∃ now, Runs (replies.losing fails) (f (s.state.state.store.answer now call).1)
      ⟨⟨{ s.state.state with store := (s.state.state.store.answer now call).2 }, s.state.notes⟩,
        s.notes⟩ r t := by
  rcases runs_ask_iff.mp ran with ⟨result, ⟨⟨u, calls⟩, tally⟩, answered, rest⟩
  rcases answered.of_spares spares with ⟨⟨⟨⟨now, rfl, stored⟩, noted⟩, _⟩, sameTally⟩
  obtain rfl : u = { s.state.state with store := (s.state.state.store.answer now call).2 } := stored
  obtain rfl : calls = s.state.notes := by simpa [noteCall, ServiceCall.ruleCall?] using noted
  obtain rfl : tally = s.notes := sameTally
  exact ⟨now, rest⟩

/-- A write of a job fails and leaves everything as it is, or the tables answer it. -/
theorem losing_write {call : StoreCall} {f : Except StoreError call.Result → Routine α}
    (writes : (ServiceCall.store call).writesJob = true)
    (ran : Runs (replies.losing fails) (.ask (ServiceCall.store call : service.Question) f) s r t) :
    (fails s.notes = true ∧ ∃ e, Runs (replies.losing fails) (f (.error e))
        ⟨s.state, s.notes + 1⟩ r t) ∨
      (fails s.notes = false ∧ ∃ now,
        Runs (replies.losing fails) (f (s.state.state.store.answer now call).1)
          ⟨⟨{ s.state.state with store := (s.state.state.store.answer now call).2 },
            s.state.notes⟩, s.notes + 1⟩ r t) := by
  rcases runs_ask_iff.mp ran with ⟨result, ⟨⟨u, calls⟩, tally⟩, ⟨counted, answered⟩, rest⟩
  rw [if_pos writes] at counted
  obtain rfl : tally = s.notes + 1 := counted
  cases failed : fails s.notes with
  | true =>
      rw [if_pos ⟨writes, failed⟩] at answered
      rcases answered with ⟨⟨e, rfl⟩, same⟩
      rw [show (⟨u, calls⟩ : Watched) = s.state from same] at rest
      exact .inl ⟨rfl, e, rest⟩
  | false =>
      rw [if_neg (by simp [failed])] at answered
      rcases answered with ⟨⟨⟨now, rfl, stored⟩, noted⟩, _⟩
      obtain rfl : u = { s.state.state with store := (s.state.state.store.answer now call).2 } :=
        stored
      obtain rfl : calls = s.state.notes := by simpa [noteCall, ServiceCall.ruleCall?] using noted
      exact .inr ⟨rfl, now, rest⟩

end Runs

end Replies

/-! ## One node -/

namespace Run

variable {run : Run} {replies : Replies} {fails : Nat → Bool} {node : Node} {vars : Bag}
  {s t : Tallied}

/-- The job that was added last is ended, unless its end is lost: what is left is what is left of
the job that tells how it has ended. -/
theorem runs_recordEnd_losing (finish : Instant → Except TransitionError Job) {store : Store}
    (wellFormed : store.WellFormed) {queue : QueueTable} {calls : List RuleCall} {n : Nat}
    {row : Job} (told : Job) (late : store.lastId < row.id.value) {ended : Instant → Job}
    (finishes : ∀ now, finish now = .ok (ended now)) (sameId : ∀ now, (ended now).id = row.id)
    (sameExecution : ∀ now, (ended now).executionId = row.executionId)
    (started : row.essence = told.unfinished) (tells : ∀ now, (ended now).essence = told)
    (ends : told.state ≠ .start) (created : fails n = false)
    (ran : Runs (replies.losing fails) (recordEnd finish)
      ⟨⟨⟨store.withJobs [row], queue⟩, calls⟩, n + 1⟩ () t) :
    ∃ job? : Option Job,
      t = ⟨⟨⟨store.withJobs job?.toList, queue⟩, calls⟩, n + told.writes fails n⟩ ∧
      job?.map Job.essence = told.left? fails n ∧
      ∀ job ∈ job?, job.executionId = row.executionId := by
  have writes : told.writes fails n = 2 := by simp [Job.writes, created, ends]
  simp only [recordEnd, Service.now_bind, Service.store_bind] at ran
  rcases Replies.losing_now ran with ⟨now, ran⟩
  simp only [finishes] at ran
  rcases Replies.losing_write rfl ran with ⟨failed, e, ran⟩ | ⟨kept, later, ran⟩
  · rcases runs_done_iff.mp ran with ⟨_, rfl⟩
    have failed : fails (n + 1) = true := failed
    refine ⟨some row, by simp [writes], by simp [Job.left?, created, ends, failed, started], ?_⟩
    rintro _ ⟨⟩
    rfl
  · rcases runs_done_iff.mp ran with ⟨_, rfl⟩
    have kept : fails (n + 1) = false := kept
    have updated := Store.updateJob_of_last wellFormed late (sameId now)
    simp only [Store.answer, updated, Store.changed]
    refine ⟨some (ended now), by simp [writes], by simp [Job.left?, created, kept, tells], ?_⟩
    rintro _ ⟨⟩
    exact sameExecution now

theorem perform_sparesJobs (run : Run) (node : Node) (vars : Bag) :
    SparesJobs (run.perform node vars) := by
  apply (perform_asksRules run node vars).mono
  intro q isInvoke
  cases q with
  | invoke => rfl
  | _ => exact absurd isInvoke Bool.false_ne_true

/-- Performing a node comes to what is foreseen, whatever is lost. -/
theorem runs_perform_losing {outcome : NodeOutcome}
    (ran : Runs (replies.losing fails) (run.perform node vars) s outcome t) {made : Performance}
    (foreseen : made = run.engine.performance run.context replies s.state.notes node vars) :
    outcome = made.outcome ∧ t = ⟨⟨s.state.state, s.state.notes ++ made.calls⟩, s.notes⟩ := by
  rcases Replies.runs_of_spares ran (perform_sparesJobs run node vars) with ⟨ran, tally⟩
  rcases runs_perform_eq ran with ⟨came, left⟩
  rw [← foreseen] at came left
  exact ⟨came, by rw [← left, ← tally]⟩

/-- A node that is run comes to what is foreseen, and leaves what is left of its job. -/
theorem runs_runNode_losing (wellFormed : s.state.state.store.WellFormed)
    {result : Except Abort Bag}
    (ran : Runs (replies.losing fails) (run.runNode node vars) s result t)
    {made : Performance}
    (foreseen : made = run.engine.performance run.context replies s.state.notes node vars) :
    result = made.outcome.result node.nodeId ∧
      ∃ row? : Option Job, t = ⟨⟨{ s.state.state with
          store := s.state.state.store.withJobs row?.toList }, s.state.notes ++ made.calls⟩,
          s.notes + (made.outcome.recordedFor node).writes fails s.notes⟩ ∧
        row?.map Job.essence = (made.outcome.recordedFor node).left? fails s.notes ∧
        ∀ row ∈ row?, row.executionId = run.executionId := by
  simp only [runNode, Service.now_bind, Service.store_bind] at ran
  rcases Replies.losing_now ran with ⟨start, ran⟩
  rcases Replies.losing_write rfl ran with ⟨failed, e, ran⟩ | ⟨created, _, ran⟩
  · -- Nothing is left of the job, and its end is not written either.
    rcases runs_bind_iff.mp ran with ⟨outcome, u, performing, ending⟩
    rcases runs_perform_losing performing foreseen with ⟨rfl, rfl⟩
    have failed : fails s.notes = true := failed
    refine ⟨?_, none, ?_, by simp [Job.left?, failed], by simp⟩
    all_goals
      cases came : made.outcome with
      | returned value | failed e | panicked message =>
          rw [came] at ending
          rcases runs_done_iff.mp ending with ⟨rfl, rfl⟩
          simp [NodeOutcome.result, Job.writes, failed]
  · rcases runs_bind_iff.mp ran with ⟨outcome, u, performing, ending⟩
    rcases runs_perform_losing performing foreseen with ⟨rfl, rfl⟩
    have created : fails s.notes = false := created
    set row : Job := { Job.start start run.executionId node with
      id := ⟨s.state.state.store.lastId + 1⟩ } with row_def
    have late : s.state.state.store.lastId < row.id.value := by
      simp only [row_def]
      omega
    cases came : made.outcome with
    | returned value =>
        rw [came] at ending
        rcases runs_bind_iff.mp ending with ⟨_, v, recorded, done⟩
        rcases runs_done_iff.mp done with ⟨rfl, rfl⟩
        exact ⟨rfl, runs_recordEnd_losing (fun now => row.succeed now value) wellFormed
          ((NodeOutcome.returned value).recordedFor node) late (fun _ => rfl) (fun _ => rfl)
          (fun _ => rfl) rfl (fun _ => rfl) (by simp [NodeOutcome.recordedFor]) created recorded⟩
    | failed e =>
        rw [came] at ending
        rcases runs_bind_iff.mp ending with ⟨_, v, recorded, done⟩
        rcases runs_done_iff.mp done with ⟨rfl, rfl⟩
        exact ⟨rfl, runs_recordEnd_losing (fun now => row.fail now e.message) wellFormed
          ((NodeOutcome.failed e).recordedFor node) late (fun _ => rfl) (fun _ => rfl)
          (fun _ => rfl) rfl (fun _ => rfl) (by simp [NodeOutcome.recordedFor]) created recorded⟩
    | panicked message =>
        rw [came] at ending
        rcases runs_done_iff.mp ending with ⟨rfl, rfl⟩
        have started : ((NodeOutcome.panicked message).recordedFor node).state = .start := rfl
        refine ⟨rfl, some row, ?_, ?_, by simp [row_def, Job.start]⟩
        · simp [Job.writes, started]
          rfl
        · simp [Job.left?, created, started]
          rfl

/-! ## Walks -/

/-- A walk can be foreseen whatever is lost. -/
theorem foreseeable_losing (run : Run) (replies : Replies) (fails : Nat → Bool) :
    run.Foreseeable replies (replies.losing fails) Noted.state where
  nodes ran := (Replies.losing_store rfl ran).choose_spec
  edges ran := (Replies.losing_store rfl ran).choose_spec
  node wellFormed ran made foreseen := by
    have stays := Replies.wellFormed_of_runs_losing ran wellFormed
    rcases runs_runNode_losing wellFormed ran foreseen with ⟨same, _, rfl, _⟩
    exact ⟨same, rfl, stays⟩

/-- A run leaves what is left of the jobs of the stations at which it has run a node. -/
theorem Along.exists_left {stations : List Station} (wellFormed : s.state.state.store.WellFormed)
    (along : run.Along replies (replies.losing fails) Noted.state s stations t) :
    ∃ rows : List Job, t.state.state =
        { s.state.state with store := s.state.state.store.withJobs rows } ∧
      rows.map Job.essence = Job.leftOf fails s.notes (stations.filterMap Station.job?) ∧
      ∀ row ∈ rows, row.executionId = run.executionId := by
  induction along with
  | arrived s => exact ⟨[], by simp, rfl, by simp⟩
  | @passed station rest _ _ idle _ ih =>
      have none : station.job? = none := by rw [Station.job?, idle, Option.map_none]
      rw [List.filterMap_cons_none none]
      exact ih wellFormed
  | @ran station rest made _ _ _ performed foreseen node _ ih =>
      have stays := Replies.wellFormed_of_runs_losing node wellFormed
      rcases runs_runNode_losing wellFormed node foreseen with ⟨_, row?, rfl, left, own⟩
      rcases ih stays with ⟨rows, same, leftRest, ownRest⟩
      have some : station.job? = some (made.outcome.recordedFor station.node) := by
        rw [Station.job?, performed, Option.map_some]
      refine ⟨row?.toList ++ rows, by simpa using same, ?_, ?_⟩
      · rw [List.filterMap_cons_some some, Job.leftOf, List.map_append, leftRest, ← left,
          Option.toList_map]
      · intro row rowMem
        rcases List.mem_append.mp rowMem with rowMem | rowMem
        · exact own row (Option.mem_toList.mp rowMem)
        · exact ownRest row rowMem

/-- A walk writes no row of an execution, whatever is lost. -/
theorem getExecution_of_walk_losing {flow : Flow} {triggerType : String} {progress : Progress}
    (wellFormed : s.state.state.store.WellFormed)
    (walked : Runs (replies.losing fails) (run.walk flow triggerType vars) s progress t)
    (id : ExecutionId) :
    t.state.state.store.getExecution id = s.state.state.store.getExecution id := by
  have meets := (run.foreseeable_losing replies fails).runs_walk wellFormed walked
  rcases meets.along.exists_left wellFormed with ⟨rows, same, _⟩
  rw [same]
  rfl

end Run

/-! ## Executions -/

theorem ServiceCall.writesJob_of_ofRow {q : ServiceCall} (asked : q.ofRow = true) :
    q.writesJob = false := by
  unfold ofRow at asked
  split at asked <;> first | rfl | contradiction

theorem sparesJobs_of_asksOfRow {α : Type} {p : Routine α} (asks : AsksOfRow p) : SparesJobs p :=
  asks.mono fun _ => ServiceCall.writesJob_of_ofRow

namespace Attempt

/-- The run has taken place where the marked writes of jobs fail. -/
structure ExecutesLosing (attempt : Attempt) (fails : Nat → Bool) (engine : Engine)
    (replies : Replies) (request : FlowRequest) : Prop where
  wellFormed : attempt.before.store.WellFormed
  ran : ∃ tally, Runs (replies.losing fails) (engine.executeUnder attempt.id request)
    ⟨⟨attempt.before, []⟩, 0⟩ attempt.result ⟨⟨attempt.after, attempt.calls⟩, tally⟩

/-- The run has opened its execution, and has come to what a forecast says, but for the jobs
that are lost. -/
structure ForetoldLosing (attempt : Attempt) (fails : Nat → Bool) (request : FlowRequest)
    (forecast : Forecast) : Prop where
  result : attempt.result = (Engine.resultOf forecast.progress.2).map fun _ => attempt.id
  calls : attempt.calls = forecast.calls
  jobs : ∃ recorded, attempt.after.store.jobs = attempt.before.store.jobs ++ recorded ∧
    recorded.map Job.essence = Job.leftOf fails 0 forecast.jobs ∧
    ∀ job ∈ recorded, job.executionId = attempt.id
  row : ∃ (row : Execution) (now : Instant),
    row.Opens attempt.id request (attempt.before.store.getExecution attempt.id) ∧
      attempt.after.store.getExecution attempt.id = some (row.closedWith now forecast.progress)

/-- The parts of a run that opens its execution: only the walk between opening and closing writes
jobs, so that the other parts are as ever. -/
structure PartsLosing (attempt : Attempt) (fails : Nat → Bool) (engine : Engine)
    (replies : Replies) (request : FlowRequest) (flow : Flow) (row : Execution)
    (progress : Run.Progress) (opened : Watched) (walked : Tallied) : Prop where
  found : attempt.before.store.getFlow request.flowId = some flow
  enabled : flow.enabled = true
  opening : Runs replies.answering (Engine.openExecution attempt.id request) ⟨attempt.before, []⟩
    (.ok row) opened
  walking : Runs (replies.losing fails) ((engine.runOf flow attempt.id).walk flow
    request.triggerType (initialVariables request.payload request.triggerType request.triggerId))
    ⟨opened, 0⟩ progress walked
  closing : Runs replies.answering (Engine.finish row progress) walked.state
    (Engine.resultOf progress.2) ⟨attempt.after, attempt.calls⟩

variable {engine : Engine} {replies : Replies} {fails : Nat → Bool} {request : FlowRequest}
  {attempt : Attempt}

section Parts

variable {flow : Flow} {row : Execution} {progress : Run.Progress} {opened : Watched}
  {walked : Tallied}

/-- What is opened has been accepted. -/
theorem PartsLosing.accepted
    (parts : attempt.PartsLosing fails engine replies request flow row progress opened walked) :
    Engine.refusal? attempt.before.store attempt.id request = none := by
  rcases Engine.runs_openExecution (replies.narrows.runs parts.opening) with
    ⟨_, _, _, rejected, _⟩ | ⟨_, _, _, ⟨_, _, _, _, own, stored | ⟨absent, _⟩⟩, _⟩
  · contradiction
  · simp [Engine.refusal?, Engine.bound?, parts.found, parts.enabled, stored, own]
  · simp [Engine.refusal?, Engine.bound?, parts.found, parts.enabled, absent]

theorem PartsLosing.foretold (wellFormed : attempt.before.store.WellFormed)
    (parts : attempt.PartsLosing fails engine replies request flow row progress opened walked)
    (result : attempt.result = (Engine.resultOf progress.2).map fun _ => attempt.id) :
    attempt.ForetoldLosing fails request
      (engine.forecastFor replies flow request attempt.before.store) := by
  have stays := (replies.narrows.runs parts.opening).wellFormed wellFormed
  rcases Engine.runs_openExecution (replies.narrows.runs parts.opening) with
    ⟨_, _, _, rejected, _⟩ | ⟨_, executions, same, opens, rfl, stored⟩
  · contradiction
  cases same
  have meets := (Run.foreseeable_losing (engine.runOf flow attempt.id) replies fails).runs_walk
    stays parts.walking
  have flowId : flow.id = request.flowId := by simpa using List.find?_some parts.found
  rw [flowId] at meets
  have foreseen : progress =
      (engine.forecastFor replies flow request attempt.before.store).progress := meets.reached
  rcases meets.along.exists_left stays with ⟨rows, same, left, own⟩
  have remains : walked.state.state.store.getExecution attempt.id = some row := by
    rw [same]
    exact stored
  rcases Engine.runs_finish opens.executionId remains (replies.narrows.runs parts.closing) with
    ⟨_, now, closed, after, final⟩
  -- Closing writes an execution only, so that the jobs are those of the walk.
  have afterCalls : attempt.calls = walked.state.notes := congrArg Noted.notes after
  have afterJobs : attempt.after.store.jobs = walked.state.state.store.jobs :=
    congrArg (fun u : Watched => u.state.store.jobs) after
  rw [foreseen] at result final
  refine ⟨result, afterCalls.trans meets.notes, ⟨rows, ?_, left, own⟩, row, now, opens, final⟩
  rw [afterJobs, same]
  rfl

end Parts

/-- A run is rejected as ever, or it has its parts. -/
theorem ExecutesLosing.rejected_or_parts
    (executes : attempt.ExecutesLosing fails engine replies request) :
    (∃ e, Engine.refusal? attempt.before.store attempt.id request = some e ∧
        attempt.RejectedWith e) ∨
      ∃ flow row progress opened walked,
        attempt.PartsLosing fails engine replies request flow row progress opened walked ∧
          attempt.result = (Engine.resultOf progress.2).map fun _ => attempt.id := by
  rcases attempt with ⟨id, before, after, calls, returned⟩
  rcases executes with ⟨wellFormed, tally, ran⟩
  have rejects {e : EngineError}
      (refused : Engine.refusal? before.store id request = some e)
      (rejected : returned = .error e)
      (left : (⟨⟨after, calls⟩, tally⟩ : Tallied) = ⟨⟨before, []⟩, 0⟩) :
      ∃ e, Engine.refusal? before.store id request = some e ∧
        RejectedWith ⟨id, before, after, calls, returned⟩ e := by
    cases left
    exact ⟨e, refused, (Engine.Refuses.of_refusal? refused).isRejection, rejected, rfl, rfl⟩
  simp only [Engine.executeUnder, Service.store_bind] at ran
  rcases Replies.losing_store rfl ran with ⟨_, ran⟩
  simp only [Store.answer] at ran
  cases found : before.store.getFlow request.flowId with
  | none =>
      simp only [found] at ran
      rcases runs_done_iff.mp ran with ⟨rejected, left⟩
      exact .inl (rejects (by simp [Engine.refusal?, found]) rejected left)
  | some flow =>
      simp only [found] at ran
      by_cases enabled : flow.enabled = true
      · simp only [enabled, if_true] at ran
        rcases runs_bind_iff.mp ran with ⟨value, u, ranFlow, ended⟩
        unfold Engine.runFlow at ranFlow
        rcases runs_bind_iff.mp ranFlow with ⟨opened, ⟨v, n⟩, opening, ranFlow⟩
        rcases Replies.runs_of_spares opening
          (sparesJobs_of_asksOfRow (Engine.openExecution_asks id request)) with ⟨opening, tally⟩
        obtain rfl : n = 0 := tally
        rcases Engine.runs_openExecution (replies.narrows.runs opening) with
          ⟨row, stored, foreign, rfl, left⟩ | ⟨row, executions, rfl, opens, left, stored⟩
        · rcases runs_done_iff.mp ranFlow with ⟨rfl, rfl⟩
          rcases runs_done_iff.mp ended with ⟨rejected, same⟩
          obtain rfl : v = _ := left
          refine .inl (rejects ?_ rejected same)
          simp [Engine.refusal?, Engine.bound?, found, enabled, stored, foreign]
        · rcases runs_bind_iff.mp ranFlow with ⟨progress, w, walking, closing⟩
          rcases Replies.runs_of_spares closing
            (sparesJobs_of_asksOfRow (Engine.finish_asks row progress)) with ⟨closing, _⟩
          have stays := (replies.narrows.runs opening).wellFormed wellFormed
          have remains := (Run.getExecution_of_walk_losing stays walking id).trans stored
          rcases Engine.runs_finish opens.executionId remains (replies.narrows.runs closing) with
            ⟨rfl, _⟩
          rcases Engine.map_resultOf ended with ⟨result, same⟩
          cases same
          exact .inr ⟨flow, row, progress, v, w, ⟨found, enabled, opening, walking, closing⟩,
            result⟩
      · simp only [enabled] at ran
        rcases runs_done_iff.mp ran with ⟨rejected, left⟩
        exact .inl (rejects (by simp [Engine.refusal?, found, enabled]) rejected left)

/-- A run is rejected as ever, or it comes to what is foretold, whatever is lost. -/
theorem ExecutesLosing.rejected_or_foretold
    (executes : attempt.ExecutesLosing fails engine replies request) :
    (∃ e, Engine.refusal? attempt.before.store attempt.id request = some e ∧
        attempt.RejectedWith e) ∨
      ∃ flow, Engine.refusal? attempt.before.store attempt.id request = none ∧
        attempt.before.store.getFlow request.flowId = some flow ∧
        attempt.ForetoldLosing fails request
          (engine.forecastFor replies flow request attempt.before.store) := by
  rcases executes.rejected_or_parts with
    rejected | ⟨flow, row, progress, opened, walked, parts, result⟩
  · exact .inl rejected
  · exact .inr ⟨flow, parts.accepted, parts.found, parts.foretold executes.wellFormed result⟩

end Attempt

end EventFlow
