import EventFlow.Proofs.Engine.Course
import EventFlow.Proofs.Graph.Rows

/-!
# What the jobs of a run tell

The jobs that a run records are a log from which the run can be replayed.  Each of
them tells what came of its node, and the results of those before it are the
variables on which its node was run.  The last one tells why the run has failed, if
a node has made it fail.
-/

namespace EventFlow

open Program

/-- The variables when the results of some jobs have been put into them, one after the
other. -/
def gather (vars : Bag) (jobs : List Job) : Bag :=
  jobs.foldl (fun gathered job => Bag.extend gathered job.result) vars

@[simp]
theorem gather_nil (vars : Bag) : gather vars [] = vars := rfl

@[simp]
theorem gather_cons (vars : Bag) (job : Job) (jobs : List Job) :
    gather vars (job :: jobs) = gather (Bag.extend vars job.result) jobs := rfl

/-- A job that has no result adds nothing. -/
theorem gather_of_result_nil {job : Job} (nothing : job.result = []) (vars : Bag) :
    gather vars [job] = vars := by
  simp [nothing, Bag.extend]

/-! ## Calls -/

/-- What the rule of a node is asked for: a trigger to take variables out of the event,
an action to act on all variables. -/
def NodeType.request? (vars : Bag) : NodeType → Option Request
  | .trigger => some (.extract ((vars.getObject? "payload").getD []))
  | .action => some (.run vars)
  | .filter => none
  | .condition => none

theorem Behaviour.of_mem_calls {Argument Result : Type} {behaviour : Behaviour Argument Result}
    {context : RuleContext} {params : Bag} {request : Request} {limit : Duration} {call : RuleCall}
    (callMem : call ∈ behaviour.calls context params request limit) :
    call.params = params ∧ call.request = request := by
  cases behaviour with
  | immediate answer => simp [calls] at callMem
  | external handle =>
      simp only [calls, List.mem_singleton] at callMem
      rw [callMem]
      exact ⟨rfl, rfl⟩

namespace Run

variable {run : Run} {node : Node} {params vars : Bag}

/-- The rule of a node is called with the parameters on which the node is performed, for
what the role of the node is. -/
theorem Performed.of_mem_calls {calls : List RuleCall} {outcome : NodeOutcome}
    (performed : Performed run node params vars calls outcome) {call : RuleCall}
    (callMem : call ∈ calls) :
    call.params = params ∧ node.nodeType.request? vars = some call.request := by
  cases performed with
  | gate | noTrigger | badTrigger | noAction | badAction => contradiction
  | extract trigger _ _ event _ =>
      rcases Behaviour.of_mem_calls callMem with ⟨sameParams, sameRequest⟩
      rw [trigger, sameRequest, event]
      exact ⟨sameParams, rfl⟩
  | act action _ _ _ =>
      rcases Behaviour.of_mem_calls callMem with ⟨sameParams, sameRequest⟩
      rw [action, sameRequest]
      exact ⟨sameParams, rfl⟩

/-! ## Journals -/

/-- The outcome of a walk that no node has ended. -/
def EndsBetweenNodes : Except Abort Unit → Prop
  | .error (.failed (.nodeFailed _ _)) => False
  | .error (.failed (.panicked _)) => False
  | .error (.panicked _) => False
  | _ => True

/-- A log as it grows from its first entry on: each entry is that of a node among some,
which was run on what had been gathered before. -/
inductive Journal (run : Run) (among : List Node) : Bag → List LogEntry → Progress → Prop where
  | finished {vars : Bag} {outcome : Except Abort Unit} (between : EndsBetweenNodes outcome) :
      Journal run among vars [] (vars, outcome)
  | stopped {node : Node} {vars : Bag} {entry : LogEntry} {e : Abort} (nodeMem : node ∈ among)
      (logs : run.Logs node vars entry) (stops : entry.outcome.result node.nodeId = .error e) :
      Journal run among vars [entry] (vars, .error e)
  | wentOn {node : Node} {vars result : Bag} {entry : LogEntry} {log : List LogEntry}
      {progress : Progress} (nodeMem : node ∈ among) (logs : run.Logs node vars entry)
      (returned : entry.outcome = .returned result)
      (rest : Journal run among (Bag.extend vars result) log progress) :
      Journal run among vars (entry :: log) progress

variable {among : List Node} {log more : List LogEntry} {progress : Progress}

theorem Journal.append {gathered : Bag} (first : Journal run among vars log (gathered, .ok ()))
    (second : Journal run among gathered more progress) :
    Journal run among vars (log ++ more) progress := by
  generalize came : (gathered, Except.ok ()) = reached at first
  induction first with
  | finished =>
      cases came
      exact second
  | stopped => cases came
  | wentOn nodeMem logs returned _ ih => exact .wentOn nodeMem logs returned (ih came)

/-- The log of a tour is a journal of the nodes that it can come to. -/
theorem Tours.journal {graph : Graph} {levels : Nat} {path : List String} {nodes : List Node}
    (tours : run.Tours graph levels path nodes vars log progress)
    (graphMem : ∀ node ∈ graph.nodes, node ∈ among) (nodesMem : ∀ node ∈ nodes, node ∈ among) :
    Journal run among vars log progress := by
  have successorsMem (nodeId : String) : ∀ node ∈ graph.successors nodeId, node ∈ among := by
    intro node nodeMem
    rcases List.mem_filterMap.mp nodeMem with ⟨target, _, found⟩
    exact graphMem node (List.mem_of_find?_eq_some found)
  induction tours with
  | finished | tooDeep | metAgain => exact .finished trivial
  | passed _ _ ih => exact ih fun node nodeMem => nodesMem node (List.mem_cons_of_mem _ nodeMem)
  | stopped _ _ logs stops => exact .stopped (nodesMem _ List.mem_cons_self) logs stops
  | stoppedBelow _ _ logs returned _ ih =>
      exact .wentOn (nodesMem _ List.mem_cons_self) logs returned (ih (successorsMem _))
  | wentOn _ _ logs returned _ _ below rest =>
      have restJournal := rest fun node nodeMem => nodesMem node (List.mem_cons_of_mem _ nodeMem)
      exact .wentOn (nodesMem _ List.mem_cons_self) logs returned
        ((below (successorsMem _)).append restJournal)

/-- What a journal gathers are the results of its jobs. -/
theorem Journal.gathered (journal : Journal run among vars log progress) :
    progress.1 = gather vars (log.map (·.job)) := by
  induction journal with
  | finished => rfl
  | @stopped node _ entry _ _ logs stops =>
      have told := logs.told
      cases outcome : entry.outcome with
      | returned value => simp [outcome, NodeOutcome.result] at stops
      | failed e =>
          rw [outcome] at told
          exact (gather_of_result_nil told.2.1 _).symm
      | panicked message =>
          rw [outcome] at told
          exact (gather_of_result_nil told.2.1 _).symm
  | wentOn _ logs returned _ ih =>
      have told := logs.told
      rw [returned] at told
      rw [ih, List.map_cons, gather_cons, told.2.1]

/-- Every entry of a journal is that of a node that was run on the results of the jobs
before it. -/
theorem Journal.logs_of_mem (journal : Journal run among vars log progress)
    {front back : List LogEntry} {entry : LogEntry} (split : log = front ++ entry :: back) :
    ∃ node ∈ among, run.Logs node (gather vars (front.map (·.job))) entry := by
  induction journal generalizing front with
  | finished => simp at split
  | stopped nodeMem logs _ =>
      cases front with
      | nil =>
          cases split
          exact ⟨_, nodeMem, logs⟩
      | cons first rest => simp at split
  | wentOn nodeMem logs returned _ ih =>
      cases front with
      | nil =>
          cases split
          exact ⟨_, nodeMem, logs⟩
      | cons first rest =>
          rcases List.cons.inj split with ⟨rfl, rest_eq⟩
          have told := logs.told
          rw [returned] at told
          rw [List.map_cons, gather_cons, told.2.1]
          exact ih rest_eq

end Run

/-! ## The last job -/

/-- All jobs have succeeded. -/
def AllSucceeded (jobs : List Job) : Prop :=
  ∀ job ∈ jobs, job.state = .succeeded

/-- Jobs tell the result of the run that has recorded them.  All of them have succeeded,
but for the last one when a node has ended the run: one that has failed tells the error
of its node, one that a rule has broken down under is left as it was started. -/
def JobsTell {α : Type} (jobs : List Job) : Except EngineError α → Prop
  | .error (.nodeFailed nodeId source) => ∃ front last, jobs = front ++ [last] ∧
      AllSucceeded front ∧ last.state = .failed ∧ last.nodeId = nodeId ∧
      last.error = some source.message
  | .error (.panicked _) => ∃ front last, jobs = front ++ [last] ∧ AllSucceeded front ∧
      last.state = .start
  | _ => AllSucceeded jobs

/-- A job that has succeeded may stand in front. -/
theorem JobsTell.cons {α : Type} {job : Job} {jobs : List Job} {result : Except EngineError α}
    (succeeded : job.state = .succeeded) (tell : JobsTell jobs result) :
    JobsTell (job :: jobs) result := by
  have first {rest : List Job} (all : AllSucceeded rest) : AllSucceeded (job :: rest) :=
    List.forall_mem_cons.mpr ⟨succeeded, all⟩
  unfold JobsTell at tell ⊢
  split at tell
  · rcases tell with ⟨front, last, rfl, all, failed⟩
    exact ⟨job :: front, last, rfl, first all, failed⟩
  · rcases tell with ⟨front, last, rfl, all, started⟩
    exact ⟨job :: front, last, rfl, first all, started⟩
  · exact first tell

theorem JobsTell.map {α β : Type} {jobs : List Job} {result : Except EngineError α}
    (tell : JobsTell jobs result) (f : α → β) : JobsTell jobs (result.map f) := by
  cases result with
  | ok value => exact tell
  | error e => cases e <;> exact tell

/-- The jobs of a journal tell the outcome of the walk. -/
theorem Run.Journal.tell {run : Run} {among : List Node} {vars : Bag} {log : List LogEntry}
    {progress : Run.Progress} (journal : run.Journal among vars log progress) :
    JobsTell (log.map (·.job)) (Engine.resultOf progress.2) := by
  induction journal with
  | @finished _ outcome between =>
      have none : AllSucceeded [] := by simp [AllSucceeded]
      rcases outcome with (e | message) | _
      · cases e with
        | nodeFailed | panicked => contradiction
        | _ => exact none
      · contradiction
      · exact none
  | @stopped node _ entry _ _ logs stops =>
      have told := logs.told
      have none : AllSucceeded [] := by simp [AllSucceeded]
      cases outcome : entry.outcome with
      | returned value => simp [outcome, NodeOutcome.result] at stops
      | failed e =>
          rw [outcome] at told stops
          cases stops
          exact ⟨[], entry.job, rfl, none, told.1, logs.isOf.nodeId, told.2.2⟩
      | panicked message =>
          rw [outcome] at told stops
          cases stops
          exact ⟨[], entry.job, rfl, none, told.1⟩
  | wentOn _ logs returned _ ih =>
      have told := logs.told
      rw [returned] at told
      exact ih.cons told.1

/-- The log of a run is a journal of the nodes of its flow. -/
theorem Engine.Course.journal {engine : Engine} {id : ExecutionId} {request : FlowRequest}
    {s t : Watched} {flow : Flow} {log : List LogEntry} {progress : Run.Progress}
    (course : Course engine id request s t flow log progress)
    (named : s.state.store.NodesNamed) :
    (engine.runOf flow id).Journal (s.state.store.listNodes request.flowId)
      (initialVariables request.payload request.triggerType request.triggerId) log progress := by
  have allNodes {edges : List Edge} : (Graph.ofRows _ edges).nodes = _ :=
    Graph.nodes_ofRows (named.listNodes request.flowId)
  cases course.walks with
  | noTrigger => exact .finished trivial
  | toured _ tours =>
      apply tours.journal
      · simp [allNodes]
      · intro node nodeMem
        exact allNodes ▸ List.mem_of_mem_filter (List.mem_of_mem_filter nodeMem)

end EventFlow
