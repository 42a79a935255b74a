import EventFlow.Engine.Execute
import EventFlow.Proofs.Shared

/-!
# What an engine asks of its surroundings

An engine uses the clock, the store, fresh ids and the rules outside of the
library.  Whatever it is answered, it never turns to the queue, so that a job is
in no danger while its execution runs.
-/

namespace EventFlow

open Program

/-- Is the question put to something else than the queue? -/
def ServiceCall.besideQueue : ServiceCall → Bool
  | .queue _ => false
  | _ => true

/-- Only questions to the queue change its table. -/
theorem Shared.Answers.queue_eq {s t : Shared} {q : ServiceCall} {a : q.Answer}
    (answered : s.Answers q a t) (beside : q.besideQueue = true) : t.queue = s.queue := by
  cases q with
  | store call =>
      obtain ⟨_, _, rfl⟩ := answered
      rfl
  | queue call => simp [ServiceCall.besideQueue] at beside
  | freshId => exact congrArg Shared.queue answered.2
  | _ => exact congrArg Shared.queue answered

/-- The program leaves the queue alone. -/
abbrev BesideQueue {α : Type} (p : Routine α) : Prop :=
  Asks (fun q : service.Question => ServiceCall.besideQueue q = true) p

/-- Is the question one of a visit: for the time, to a rule, or to the table of jobs? -/
def ServiceCall.ofVisit : ServiceCall → Bool
  | .now => true
  | .invoke _ _ _ _ _ => true
  | .store (.createJob _) => true
  | .store (.updateJob _) => true
  | _ => false

/-- Is the question one of a walk through a flow: one of a visit, or for the nodes or the edges
of the flow? -/
def ServiceCall.ofWalk (flowId : FlowId) : ServiceCall → Bool
  | .store (.listNodes id) => id == flowId
  | .store (.listEdges id) => id == flowId
  | q => q.ofVisit

/-- Is the question one for the row of an execution: for the time, or to the table of
executions? -/
def ServiceCall.ofRow : ServiceCall → Bool
  | .now => true
  | .store (.getExecution _) => true
  | .store (.createExecution _) => true
  | .store (.updateExecution _) => true
  | _ => false

/-- Is the question one of the execution of a flow: one of a walk through the flow, for a fresh
id, for a flow, or to the table of executions? -/
def ServiceCall.ofExecution (flowId : FlowId) : ServiceCall → Bool
  | .freshId => true
  | .store (.getFlow _) => true
  | .store (.getExecution _) => true
  | .store (.createExecution _) => true
  | .store (.updateExecution _) => true
  | q => q.ofWalk flowId

theorem ServiceCall.ofExecution_of_ofRow {flowId : FlowId} {q : ServiceCall}
    (asked : q.ofRow = true) : q.ofExecution flowId = true := by
  unfold ofRow at asked
  split at asked <;> first | rfl | contradiction

theorem ServiceCall.ofWalk_of_ofVisit {flowId : FlowId} {q : ServiceCall}
    (ofVisit : q.ofVisit = true) : q.ofWalk flowId = true := by
  unfold ofWalk
  split <;> first | contradiction | exact ofVisit

theorem ServiceCall.ofExecution_of_ofWalk {flowId : FlowId} {q : ServiceCall}
    (ofWalk : q.ofWalk flowId = true) : q.ofExecution flowId = true := by
  unfold ofExecution
  split <;> first | rfl | exact ofWalk

theorem ServiceCall.besideQueue_of_ofExecution {flowId : FlowId} {q : ServiceCall}
    (ofExecution : q.ofExecution flowId = true) : q.besideQueue = true := by
  cases q with
  | queue call => contradiction
  | _ => rfl

/-- Is the question put to a rule? -/
def ServiceCall.isInvoke : ServiceCall → Bool
  | .invoke _ _ _ _ _ => true
  | _ => false

theorem ServiceCall.ofVisit_of_isInvoke {q : ServiceCall} (isInvoke : q.isInvoke = true) :
    q.ofVisit = true := by
  cases q with
  | invoke => rfl
  | _ => contradiction

/-- Does the question write no row of an execution? -/
def ServiceCall.besideExecutions : ServiceCall → Bool
  | .store (.createExecution _) => false
  | .store (.updateExecution _) => false
  | _ => true

theorem ServiceCall.besideExecutions_of_ofWalk {flowId : FlowId} {q : ServiceCall}
    (ofWalk : q.ofWalk flowId = true) : q.besideExecutions = true := by
  cases q with
  | store call =>
      cases call with
      | createExecution | updateExecution => contradiction
      | _ => rfl
  | _ => rfl

theorem ServiceCall.besideExecutions_of_ofVisit {q : ServiceCall} (ofVisit : q.ofVisit = true) :
    q.besideExecutions = true :=
  have ofWalk : q.ofWalk .unassigned = true := ofWalk_of_ofVisit ofVisit
  besideExecutions_of_ofWalk ofWalk

/-- What writes no row of an execution changes none. -/
theorem Shared.Answers.executions_eq {s t : Shared} {q : ServiceCall} {a : q.Answer}
    (answered : s.Answers q a t) (beside : q.besideExecutions = true) :
    t.store.executions = s.store.executions := by
  cases q with
  | store call =>
      rcases answered with ⟨now, _, rfl⟩
      apply (s.store.agreesBut_answer now call).executions
      cases call <;> simp_all [ServiceCall.besideExecutions, StoreCall.table?]
  | queue call =>
      rcases answered with ⟨_, _, rfl⟩
      rfl
  | freshId =>
      rcases answered with ⟨_, rfl⟩
      rfl
  | _ =>
      cases answered
      rfl

/-- A program that writes no row of an execution leaves all of them as they are. -/
theorem Shared.executions_of_runs {α : Type} {p : Routine α} {s t : Shared} {r : α}
    (run : Runs answering p s r t)
    (beside : Asks (fun q : service.Question => ServiceCall.besideExecutions q = true) p) :
    t.store.executions = s.store.executions :=
  run.change_of_asks beside (fun u v => v.store.executions = u.store.executions) (fun _ => rfl)
    (fun _ _ _ first second => second.trans first)
    fun _ _ _ _ kind answered => answered.executions_eq kind

/-- The program asks what a visit asks. -/
abbrev AsksOfVisit {α : Type} (p : Routine α) : Prop :=
  Asks (fun q : service.Question => ServiceCall.ofVisit q = true) p

/-- The program asks what a walk through a flow asks. -/
abbrev AsksOfWalk {α : Type} (flowId : FlowId) (p : Routine α) : Prop :=
  Asks (fun q : service.Question => ServiceCall.ofWalk flowId q = true) p

/-- The program asks what the execution of a flow asks. -/
abbrev AsksOfExecution {α : Type} (flowId : FlowId) (p : Routine α) : Prop :=
  Asks (fun q : service.Question => ServiceCall.ofExecution flowId q = true) p

/-- The program asks what the execution of some flow asks. -/
abbrev AsksOfEngine {α : Type} (p : Routine α) : Prop :=
  Asks (fun q : service.Question => ∃ flowId, ServiceCall.ofExecution flowId q = true) p

theorem besideQueue_of_asksOfEngine {α : Type} {p : Routine α} (asks : AsksOfEngine p) :
    BesideQueue p :=
  asks.mono fun _ ⟨_, asked⟩ => ServiceCall.besideQueue_of_ofExecution asked

/-- The program asks for the row of an execution only. -/
abbrev AsksOfRow {α : Type} (p : Routine α) : Prop :=
  Asks (fun q : service.Question => ServiceCall.ofRow q = true) p

/-- The program asks nothing but rules. -/
abbrev AsksRules {α : Type} (p : Routine α) : Prop :=
  Asks (fun q : service.Question => ServiceCall.isInvoke q = true) p

namespace Run

/-- A node that is performed turns to rules only. -/
theorem perform_asksRules (run : Run) (node : Node) (vars : Bag) :
    AsksRules (run.perform node vars) := by
  unfold perform
  cases node.nodeType with
  | trigger =>
      cases run.engine.registry.findTrigger node.bot node.ruleId with
      | error e => trivial
      | ok rule =>
          simp only [runTrigger]
          cases rule.check (run.engine.renderer.params vars node.parameters) with
          | error e => trivial
          | ok checked =>
              simp only [TriggerRule.extract]
              cases rule.extraction with
              | immediate answer => trivial
              | external handle => exact ⟨rfl, fun _ => trivial⟩
  | action =>
      cases run.engine.registry.findAction node.bot node.ruleId with
      | error e => trivial
      | ok rule =>
          simp only [runAction]
          cases rule.validate (run.engine.renderer.params vars node.parameters) with
          | error e => trivial
          | ok checked =>
              simp only [ActionRule.run]
              cases rule.effect with
              | immediate answer => trivial
              | external handle => exact ⟨rfl, fun _ => trivial⟩
  | filter | condition => trivial

theorem perform_asks (run : Run) (node : Node) (vars : Bag) :
    AsksOfVisit (run.perform node vars) :=
  (perform_asksRules run node vars).mono fun _ => ServiceCall.ofVisit_of_isInvoke

theorem recordEnd_asks (finish : Instant → Except TransitionError Job) :
    AsksOfVisit (recordEnd finish) := by
  simp only [recordEnd, Service.now_bind]
  refine ⟨rfl, fun now => ?_⟩
  dsimp only
  cases finish now with
  | error e => trivial
  | ok job => exact ⟨rfl, fun _ => trivial⟩

theorem runNode_asks (run : Run) (node : Node) (vars : Bag) :
    AsksOfVisit (run.runNode node vars) := by
  refine ⟨rfl, fun now => ⟨rfl, fun created => ?_⟩⟩
  apply (perform_asks run node vars).bind
  intro outcome
  cases outcome with
  | returned result =>
      cases created with
      | ok job => exact (recordEnd_asks _).bind fun _ => trivial
      | error e => trivial
  | failed e =>
      cases created with
      | ok job => exact (recordEnd_asks _).bind fun _ => trivial
      | error e => trivial
  | panicked message => trivial

theorem inTurn_asks {enter : Node → Bag → Routine Progress}
    (entered : ∀ node vars, AsksOfVisit (enter node vars)) (nodes : List Node) (vars : Bag) :
    AsksOfVisit (inTurn enter nodes vars) := by
  induction nodes generalizing vars with
  | nil => trivial
  | cons node rest ih =>
      rw [inTurn]
      by_cases closed : node.isClosed vars
      · rw [if_pos closed]
        exact ih vars
      · rw [if_neg closed]
        apply (entered node vars).bind
        rintro ⟨gathered, outcome⟩
        cases outcome with
        | ok _ => exact ih gathered
        | error e => trivial

theorem visit_asks (run : Run) (graph : Graph) (levels : Nat) (path : List String)
    (node : Node) (vars : Bag) : AsksOfVisit (run.visit graph levels path node vars) := by
  induction levels generalizing path node vars with
  | zero => trivial
  | succ levels ih =>
      rw [visit]
      by_cases cycle : path.contains node.nodeId
      · rw [if_pos cycle]
        trivial
      · rw [if_neg cycle]
        apply (runNode_asks run node vars).bind
        intro result
        cases result with
        | error e => trivial
        | ok returned => exact inTurn_asks (ih (node.nodeId :: path)) _ _

theorem visitRoots_asks (run : Run) (graph : Graph) (roots : List Node) (vars : Bag) :
    AsksOfVisit (run.visitRoots graph roots vars) := by
  induction roots generalizing vars with
  | nil => trivial
  | cons root rest ih =>
      apply (visit_asks run graph _ [] root vars).bind
      rintro ⟨gathered, outcome⟩
      cases outcome with
      | ok _ => exact ih gathered
      | error e => trivial

theorem walk_asks (run : Run) (flow : Flow) (triggerType : String) (vars : Bag) :
    AsksOfWalk flow.id (run.walk flow triggerType vars) := by
  simp only [walk, Service.store_bind]
  refine ⟨beq_self_eq_true flow.id, fun nodes => ?_⟩
  cases nodes with
  | error e => trivial
  | ok nodes =>
      refine ⟨beq_self_eq_true flow.id, fun edges => ?_⟩
      cases edges with
      | error e => trivial
      | ok edges =>
          by_cases noTrigger : (Graph.ofRows nodes edges).triggers.isEmpty
          · simp [noTrigger]
          · simpa [noTrigger] using (visitRoots_asks run _ _ vars).mono
              fun _ => ServiceCall.ofWalk_of_ofVisit

end Run

namespace Engine

theorem reuse_asks (row : Execution) (request : FlowRequest) :
    AsksOfRow (reuse row request) := by
  unfold reuse
  split
  · trivial
  · refine ⟨rfl, fun now => ⟨rfl, fun result => ?_⟩⟩
    cases result <;> trivial

theorem openExecution_asks (id : ExecutionId) (request : FlowRequest) :
    AsksOfRow (openExecution id request) := by
  simp only [openExecution, Service.store_bind, Service.now_bind]
  refine ⟨rfl, fun found => ?_⟩
  match found with
  | .error e => trivial
  | .ok (some existing) => exact reuse_asks existing request
  | .ok none =>
      refine ⟨rfl, fun _ => ⟨rfl, fun _ => ⟨rfl, fun result => ?_⟩⟩⟩
      cases result with
      | ok _ => trivial
      | error e =>
          by_cases conflict : e.isConflict
          · simp only [conflict, if_true]
            refine ⟨rfl, fun found => ?_⟩
            match found with
            | .error e => trivial
            | .ok none => trivial
            | .ok (some existing) => exact reuse_asks existing request
          · simp [conflict]

theorem finish_asks (row : Execution) (progress : Run.Progress) :
    AsksOfRow (finish row progress) := by
  have closes (ended : Instant → Execution) (outcome : Except EngineError Unit) :
      AsksOfRow (Service.now >>= fun now => close (ended now) outcome) := by
    refine ⟨rfl, fun now => ⟨rfl, fun result => ?_⟩⟩
    cases result <;> trivial
  obtain ⟨vars, outcome⟩ := progress
  match outcome with
  | .ok () => exact closes _ _
  | .error (.failed e) => exact closes _ _
  | .error (.panicked message) => exact ⟨rfl, fun _ => ⟨rfl, fun _ => trivial⟩⟩

/-- Running a flow asks for no nodes and edges but those of the flow. -/
theorem runFlow_asks (engine : Engine) (flow : Flow) (id : ExecutionId) (request : FlowRequest) :
    AsksOfExecution flow.id (engine.runFlow flow id request) := by
  apply ((openExecution_asks id request).mono fun _ => ServiceCall.ofExecution_of_ofRow).bind
  intro opened
  cases opened with
  | error e => trivial
  | ok row =>
      exact ((Run.walk_asks _ flow _ _).mono fun _ => ServiceCall.ofExecution_of_ofWalk).bind
        fun progress => (finish_asks row progress).mono fun _ => ServiceCall.ofExecution_of_ofRow

theorem executeUnder_asks (engine : Engine) (id : ExecutionId) (request : FlowRequest) :
    AsksOfEngine (engine.executeUnder id request) := by
  simp only [executeUnder, Service.store_bind]
  refine ⟨⟨request.flowId, rfl⟩, fun found => ?_⟩
  match found with
  | .error e => trivial
  | .ok none => trivial
  | .ok (some flow) =>
      by_cases enabled : flow.enabled
      · simp only [enabled, if_true]
        apply ((runFlow_asks engine flow id request).mono fun _ asked => ⟨flow.id, asked⟩).bind
        intro result
        cases result <;> trivial
      · simp [enabled]

theorem execute_asks (engine : Engine) (given : Option ExecutionId) (request : FlowRequest) :
    AsksOfEngine (engine.execute given request) := by
  unfold execute
  split
  · exact executeUnder_asks engine _ request
  · exact ⟨⟨request.flowId, rfl⟩, fun fresh => executeUnder_asks engine fresh request⟩

theorem executeUnder_besideQueue (engine : Engine) (id : ExecutionId) (request : FlowRequest) :
    BesideQueue (engine.executeUnder id request) :=
  besideQueue_of_asksOfEngine (executeUnder_asks engine id request)

/-- Executing a flow leaves the queue alone. -/
theorem execute_besideQueue (engine : Engine) (given : Option ExecutionId)
    (request : FlowRequest) : BesideQueue (engine.execute given request) :=
  besideQueue_of_asksOfEngine (execute_asks engine given request)

end Engine

end EventFlow
