import EventFlow.Store.Call

/-!
# The tables that operations write

An operation of a store writes one of its tables or none, and no number that has been
given is taken back.  So all that is said of the other tables remains true.
-/

namespace EventFlow

/-- The tables of a store. -/
inductive StoreTable where
  | flows
  | nodes
  | edges
  | executions
  | jobs
  | rateLimits
  deriving DecidableEq

/-- The table that an operation writes, if it writes one. -/
def StoreCall.table? : StoreCall → Option StoreTable
  | .createFlow _ => some .flows
  | .updateFlow _ => some .flows
  | .createNode _ => some .nodes
  | .updateNode _ => some .nodes
  | .createEdge _ => some .edges
  | .createExecution _ => some .executions
  | .updateExecution _ => some .executions
  | .createJob _ => some .jobs
  | .updateJob _ => some .jobs
  | .createRateLimit _ => some .rateLimits
  | _ => none

namespace Store

/-- Two states of a store, of which the second is not older, agree in all tables but
one. -/
structure AgreesBut (table : Option StoreTable) (s t : Store) : Prop where
  lastId_le : s.lastId ≤ t.lastId
  flows : table ≠ some .flows → t.flows = s.flows
  nodes : table ≠ some .nodes → t.nodes = s.nodes
  edges : table ≠ some .edges → t.edges = s.edges
  executions : table ≠ some .executions → t.executions = s.executions
  jobs : table ≠ some .jobs → t.jobs = s.jobs
  rateLimits : table ≠ some .rateLimits → t.rateLimits = s.rateLimits

namespace AgreesBut

variable {table : Option StoreTable} {s : Store}

theorem refl (table : Option StoreTable) (s : Store) : AgreesBut table s s :=
  ⟨Int.le_refl _, fun _ => rfl, fun _ => rfl, fun _ => rfl, fun _ => rfl, fun _ => rfl,
    fun _ => rfl⟩

/-- A change that is refused changes nothing. -/
theorem changed {result : Except StoreError Store}
    (succeeds : ∀ t, result = .ok t → AgreesBut table s t) :
    AgreesBut table s (s.changed result).2 := by
  cases result with
  | ok t => exact succeeds t rfl
  | error e => exact refl table s

end AgreesBut

/-- An operation leaves all tables alone but the one that it writes. -/
theorem agreesBut_answer (s : Store) (now : Instant) (call : StoreCall) :
    AgreesBut call.table? s (s.answer now call).2 := by
  have later : s.lastId ≤ s.lastId + 1 := by omega
  cases call with
  | createFlow flow => constructor <;> simp [answer, createFlow, StoreCall.table?, later]
  | createEdge edge => constructor <;> simp [answer, createEdge, StoreCall.table?, later]
  | createJob job => constructor <;> simp [answer, createJob, StoreCall.table?, later]
  | createRateLimit rule =>
      constructor <;> simp [answer, createRateLimit, StoreCall.table?, later]
  | createNode node =>
      unfold answer createNode
      by_cases taken : s.nodes.any fun n => sameNode n node
      · simp only [taken, if_true]
        exact .refl _ s
      · simp only [taken]
        constructor <;> simp [StoreCall.table?, later]
  | updateFlow flow =>
      apply AgreesBut.changed
      intro t updated
      unfold updateFlow at updated
      split at updated <;> cases updated
      constructor <;> simp [StoreCall.table?]
  | updateNode node =>
      apply AgreesBut.changed
      intro t updated
      unfold updateNode at updated
      split at updated <;> cases updated
      constructor <;> simp [StoreCall.table?]
  | createExecution execution =>
      apply AgreesBut.changed
      intro t created
      unfold createExecution at created
      split at created <;> cases created
      constructor <;> simp [StoreCall.table?]
  | updateExecution execution =>
      apply AgreesBut.changed
      intro t updated
      unfold updateExecution at updated
      split at updated <;> cases updated
      constructor <;> simp [StoreCall.table?]
  | updateJob job =>
      apply AgreesBut.changed
      intro t updated
      unfold updateJob at updated
      split at updated <;> cases updated
      constructor <;> simp [StoreCall.table?]
  | getFlow | listFlows | listNodes | listEdges | getExecution | listExecutions | listJobs
  | listRateLimits => exact .refl _ s

end Store

end EventFlow
