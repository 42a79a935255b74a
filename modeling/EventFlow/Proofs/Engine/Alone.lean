import EventFlow.Proofs.Engine.Execution
import EventFlow.Rule.Dev

/-!
# Executing a flow alone

A run that has the store to itself always comes to an end.  Either it was
rejected and the store is as it was, or the row of its execution tells how it
ended, and nothing else has changed but that jobs of the execution have been
added.
-/

namespace EventFlow.Engine

open Program Shared

theorem apart_eq (id : ExecutionId) : Apart id Eq where
  refl _ := rfl
  trans := Eq.trans
  sameFor s _ same := same ▸ .refl id s.store

/-- What a run leaves behind that has opened an execution. -/
structure Leaves (id : ExecutionId) (request : FlowRequest) (state : ExecutionState)
    (error : Option String) (s t : Store) : Prop where
  row : Ended id request (s.getExecution id) state error t
  executions : ∀ other, other ≠ id → t.getExecution other = s.getExecution other
  jobs : ∃ recorded, t.jobs = s.jobs ++ recorded ∧ ∀ job ∈ recorded, job.executionId = id
  flows : t.flows = s.flows
  nodes : t.nodes = s.nodes
  edges : t.edges = s.edges
  rateLimits : t.rateLimits = s.rateLimits

/-- What a run under an id comes to: it is rejected and has changed nothing, or it
leaves an execution that tells its outcome. -/
def ComesTo (id : ExecutionId) (request : FlowRequest) (s t : Shared) :
    Except EngineError ExecutionId → Prop
  | .ok returned => returned = id ∧ Leaves id request .succeeded none s.store t.store
  | .error e =>
    if e.isRejection then t = s
    else Leaves id request .failed (some e.recorded) s.store t.store

/-- What has changed behind a run is what it leaves behind. -/
theorem leaves_of_ended {id : ExecutionId} {request : FlowRequest} {state : ExecutionState}
    {error : Option String} {s t : Store} (wellFormed : s.WellFormed) (after : t.WellFormed)
    (changes : s.ChangesOnly id s.lastId t)
    (ended : Ended id request (s.getExecution id) state error t) :
    Leaves id request state error s t where
  row := ended
  executions _ different := changes.getExecution different
  jobs := changes.jobs_eq_append wellFormed after
  flows := changes.flows
  nodes := changes.nodes
  edges := changes.edges
  rateLimits := changes.rateLimits

/-- A run under an id, alone. -/
theorem executeUnder_alone (engine : Engine) (id : ExecutionId) (request : FlowRequest)
    {s t : Shared} (wellFormed : s.store.WellFormed) {result : Except EngineError ExecutionId}
    (run : Runs answering (engine.executeUnder id request) s result t) :
    ComesTo id request s t result := by
  have kept : Keeps answering (runTerms id s.store.lastId Eq) _ _ s :=
    executeUnder_keeps (apart_eq id) engine request rfl
  have valid : (runTerms id s.store.lastId Eq).valid s := ⟨wellFormed, Int.le_refl _⟩
  obtain ⟨⟨outcome, named⟩, ⟨_, changes⟩, left, _⟩ := kept.of_runs run valid
    (fun valid answered =>
      ⟨answered.wellFormed valid.1, Int.le_trans valid.2 answered.lastId_le⟩)
    (fun _ => rfl) runTerms_guarantee_refl
    (fun first second => ⟨second.1.trans first.1, first.2.trans second.2⟩)
  cases result with
  | ok given => exact ⟨named given rfl, leaves_of_ended wellFormed left changes outcome⟩
  | error e =>
      simp only [Outcome, ComesTo] at outcome ⊢
      by_cases rejected : e.isRejection
      · simp only [rejected, if_true] at outcome ⊢
        exact outcome.2.symm
      · simp only [rejected] at outcome ⊢
        exact leaves_of_ended wellFormed left changes outcome

/-- Executing a flow alone comes to an end, and there is an id under which it ran:
the given one, if it is not blank.  A rejection leaves the tables as they were;
success and every other error are told by the row of the execution, which keeps
the times of an earlier row, and besides it only jobs have been added. -/
theorem execute_alone (engine : Engine) (given : Option ExecutionId) (request : FlowRequest)
    (s : Shared) (reachable : s.store.Reachable) :
    (∃ result t, Runs answering (engine.execute given request) s result t) ∧
    ∀ result t, Runs answering (engine.execute given request) s result t →
      ∃ id, id.isBlank = false ∧
        (∀ named, given = some named → named.isBlank = false → id = named) ∧
        ComesTo id request s t result := by
  refine ⟨exists_runs _ s, fun result t run => ?_⟩
  unfold execute at run
  cases usable : given.filter fun id => ! id.isBlank with
  | some id =>
      rw [usable] at run
      obtain ⟨rfl, named⟩ := Option.filter_eq_some_iff.mp usable
      refine ⟨id, by simpa using named, fun other same _ => Option.some.inj same, ?_⟩
      exact executeUnder_alone engine id request reachable.wellFormed run
  | none =>
      simp only [usable, Service.freshId_bind] at run
      cases run with
      | @ask _ _ _ _ _ id _ answered rest =>
          obtain ⟨named, rfl⟩ := answered
          refine ⟨id, named, ?_, executeUnder_alone engine id request reachable.wellFormed rest⟩
          rintro other rfl notBlank
          simp [Option.filter, notBlank] at usable

/-- A store with one flow, which has one node, and an execution of it that has
been created but not started. -/
def greetingStore : Store :=
  let now : Instant := .ofMilliseconds 5
  let withFlow := (Store.empty.answer now (.createFlow (.create now "owner" "topic" "greeting"))).2
  let node := { Node.ofRule now .trigger "start" "dev" "ping" with flowId := ⟨1⟩ }
  let withNode := (withFlow.answer now (.createNode node)).2
  (withNode.answer now (.createExecution (.create now ⟨"run"⟩ ⟨1⟩))).2

/-- Running the execution that is stored already keeps the time of its creation. -/
theorem execute_alone_greeting :
    greetingStore.Reachable ∧ ∀ t,
      Runs answering ((Engine.create Bot.Dev.registry .default).execute (some ⟨"run"⟩)
        ⟨⟨1⟩, "dev|ping", "event", []⟩) ⟨greetingStore, .empty⟩ (.ok ⟨"run"⟩) t →
      ∃ row, t.store.getExecution ⟨"run"⟩ = some row ∧ row.state = .succeeded ∧
        row.triggerId = "event" ∧ row.createdAt = .ofMilliseconds 5 := by
  have reachable : greetingStore.Reachable :=
    .answer (.answer (.answer .empty _ _) _ _) _ _
  refine ⟨reachable, fun t run => ?_⟩
  obtain ⟨id, _, _, rfl, leaves⟩ := (execute_alone _ _ _ _ reachable).2 _ t run
  obtain ⟨row, stored, carries, state, _⟩ := leaves.row
  exact ⟨row, stored, state, carries.triggerId, carries.createdAt _ rfl⟩

end EventFlow.Engine
