import EventFlow.Proofs.Seed.Storing

/-!
# Seeds that are stored in part

When the loading of a seed fails, the flows in front of the one that is refused are complete, and
of those behind it there is nothing.  Of the refused flow there is nothing either when one of its
edges has been found to dangle.  But that check takes no offence at two nodes of one name, and the
tables do: then the row of the flow stays behind with the nodes up to the second of them.
-/

namespace EventFlow

open Program Shared

namespace SeedFlow

/-- All of a flow is stored, or nothing of it. -/
def AllOrNone (seed : SeedFlow) (s t : Store) : Prop :=
  t = s ∨ ∃ id, seed.Completes id s t

/-- A flow whose storing has broken off is stored in part: its row is there, a node is not. -/
theorem BreaksOff.not_allOrNone {seed : SeedFlow} {id : FlowId} {front : List Node} {node : Node}
    {s t : Store} (breaks : seed.BreaksOff id front node s t) : ¬ seed.AllOrNone s t := by
  rintro (rfl | ⟨other, completes⟩)
  · rcases breaks.flows with ⟨row, _, flows⟩
    have longer := congrArg List.length flows
    rw [List.length_append, List.length_singleton] at longer
    omega
  · have reached := breaks.reached.length_le
    have same := congrArg List.length (breaks.nodes.symm.trans completes.nodes)
    rw [List.length_append, List.length_singleton] at reached
    rw [List.length_append, List.length_append, nodeRows, length_numbered, length_numbered] at same
    omega

end SeedFlow

namespace Seed

/-- What is left of a seed whose loading fails at one of its flows. -/
structure FailsAt (seed : Seed) (refused : SeedFlow) (e : SeedError) (s u t : Store) : Prop where
  complete : ∃ before after ids, seed.flows = before ++ refused :: after ∧
    SeedFlow.CompletesAll before ids s u
  left : (t = u ∧ ∃ front edge back, refused.edges = front ++ edge :: back ∧
      (∀ other ∈ front, refused.Joins other) ∧ ¬ refused.Joins edge ∧
      e = .danglingEdge refused.name edge.sourceNode edge.targetNode) ∨
    (¬ refused.AllOrNone u t ∧ ∃ id front node, refused.BreaksOff id front node u t ∧
      e = .store (.conflict .node node.nodeId))
  whole : (refused.nodes.map (·.nodeId)).Nodup → s.NodesPlaced → t = u

/-- When the loading of a seed fails, what has been written are the flows in front of the refused
one, and of that one nothing when an edge dangles, or its row with the nodes up to a name that is
taken.  The latter needs two nodes of one name, or one that has been in the way. -/
theorem apply_fails_at_flow {seed : Seed} {s t : Shared} {e : SeedError}
    (ran : Runs answering seed.apply s (.error e) t) :
    t.queue = s.queue ∧ ∃ refused u, seed.FailsAt refused e s.store u t.store := by
  rcases SeedFlow.runs_applyAll ran with ⟨queue, ⟨_, same, _⟩ |
    ⟨before, refused, after, ids, u, _, split, same, completes, applies⟩⟩
  · cases same
  · cases same
    refine ⟨queue, refused, u, ?_⟩
    generalize stored : t.store = after at applies
    have complete : ∃ before after ids, seed.flows = before ++ refused :: after ∧
        SeedFlow.CompletesAll before ids s.store u := ⟨before, _, ids, split, completes⟩
    cases applies with
    | rejected split joined dangles =>
        exact ⟨complete, .inl ⟨rfl, _, _, _, split, joined, dangles, rfl⟩, fun _ _ => rfl⟩
    | brokenOff _ breaks =>
        refine ⟨complete, .inr ⟨breaks.not_allOrNone, _, _, _, breaks, rfl⟩, ?_⟩
        intro distinct placed
        exact (breaks.false_of_distinct distinct (completes.nodesPlaced placed)).elim

end Seed

/-! ## A flow with two nodes of one name -/

namespace Twice

/-- When the seed is loaded. -/
def start : Instant := .ofMilliseconds 0

/-- A flow that names two nodes alike. -/
def flow : SeedFlow :=
  { name := "twice", uid := "", topic := "", description := "", enabled := true
    nodes := [.create start "start" .trigger, .create start "start" .action]
    edges := [], rateLimits := [] }

/-- Empty tables. -/
def before : Shared := ⟨.empty, .empty⟩

/-- What is left when the flow is loaded. -/
def loaded : Except SeedError (List FlowId) × Shared :=
  (Seed.apply ⟨[flow]⟩).run (answerAt start) before

theorem runs_loaded : Runs answering (Seed.apply ⟨[flow]⟩) before loaded.1 loaded.2 :=
  runs_run (fun s q => s.answers_answerAt start q) _ before

/-- The loading fails, and leaves the flow with the first of its nodes. -/
theorem loaded_fails :
    loaded.1 = .error (.store (.conflict .node "start")) ∧
      loaded.2.store.flows.map (·.name) = ["twice"] ∧
      loaded.2.store.nodes.map (·.nodeType) = [.trigger] := by
  decide +kernel

end Twice

/-- A flow with two nodes of one name is neither stored as a whole nor not at all. -/
theorem twice_not_allOrNone :
    ¬ ∀ e t, Runs answering (Seed.apply ⟨[Twice.flow]⟩) Twice.before (.error e) t →
      Twice.flow.AllOrNone Twice.before.store t.store := by
  intro atomic
  rcases Twice.loaded_fails with ⟨fails, flows, nodes⟩
  have ran := Twice.runs_loaded
  rw [fails] at ran
  rcases atomic _ _ ran with same | ⟨id, completes⟩
  · rw [same] at flows
    cases flows
  · have both := congrArg List.length completes.nodes
    rw [← List.length_map (f := (·.nodeType)), nodes] at both
    simp [SeedFlow.nodeRows, Twice.flow, Twice.before, Store.empty] at both

/-- What is left of the flow. -/
theorem apply_fails_at_twice :
    ∃ refused u, Seed.FailsAt ⟨[Twice.flow]⟩ refused (.store (.conflict .node "start"))
      Twice.before.store u Twice.loaded.2.store := by
  have ran := Twice.runs_loaded
  rw [Twice.loaded_fails.1] at ran
  exact (Seed.apply_fails_at_flow ran).2

end EventFlow
