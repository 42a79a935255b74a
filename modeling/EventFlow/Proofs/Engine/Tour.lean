import EventFlow.Proofs.Engine.Node

/-!
# The tour of a walk

What a walk does in the end is a tour: it takes up nodes one after the other, passes
closed gates by, and below each node that it has run takes up the successors of that
node.  A tour is over when nothing is left to take up or when something goes wrong,
and its log has one entry for every node that was run.
-/

namespace EventFlow

open Program

namespace Run

/-- A tour takes up nodes that lie at the end of a path, with so many levels left.  It
comes to a log and to what is gathered in the end. -/
inductive Tours (run : Run) (graph : Graph) :
    Nat → List String → List Node → Bag → List LogEntry → Progress → Prop where
  | finished {levels : Nat} {path : List String} {vars : Bag} :
      Tours run graph levels path [] vars [] (vars, .ok ())
  | passed {levels : Nat} {path : List String} {node : Node} {nodes : List Node} {vars : Bag}
      {log : List LogEntry} {progress : Progress} (closed : node.isClosed vars = true)
      (rest : Tours run graph levels path nodes vars log progress) :
      Tours run graph levels path (node :: nodes) vars log progress
  | tooDeep {path : List String} {node : Node} {nodes : List Node} {vars : Bag}
      (entered : node.isClosed vars = false) :
      Tours run graph 0 path (node :: nodes) vars []
        (vars, .error (.failed (.maxDepthExceeded node.nodeId run.engine.config.effectiveMaxDepth)))
  | metAgain {levels : Nat} {path : List String} {node : Node} {nodes : List Node} {vars : Bag}
      (entered : node.isClosed vars = false) (met : node.nodeId ∈ path) :
      Tours run graph (levels + 1) path (node :: nodes) vars []
        (vars, .error (.failed (.cycleDetected node.nodeId)))
  | stopped {levels : Nat} {path : List String} {node : Node} {nodes : List Node} {vars : Bag}
      {entry : LogEntry} {e : Abort} (entered : node.isClosed vars = false)
      (new : node.nodeId ∉ path) (logs : run.Logs node vars entry)
      (stops : entry.outcome.result node.nodeId = .error e) :
      Tours run graph (levels + 1) path (node :: nodes) vars [entry] (vars, .error e)
  | stoppedBelow {levels : Nat} {path : List String} {node : Node} {nodes : List Node}
      {vars result gathered : Bag} {entry : LogEntry} {log : List LogEntry} {e : Abort}
      (entered : node.isClosed vars = false) (new : node.nodeId ∉ path)
      (logs : run.Logs node vars entry) (returned : entry.outcome = .returned result)
      (below : Tours run graph levels (node.nodeId :: path) (graph.successors node.nodeId)
        (Bag.extend vars result) log (gathered, .error e)) :
      Tours run graph (levels + 1) path (node :: nodes) vars (entry :: log) (gathered, .error e)
  | wentOn {levels : Nat} {path : List String} {node : Node} {nodes : List Node}
      {vars result gathered : Bag} {entry : LogEntry} {log more : List LogEntry}
      {progress : Progress} (entered : node.isClosed vars = false) (new : node.nodeId ∉ path)
      (logs : run.Logs node vars entry) (returned : entry.outcome = .returned result)
      (below : Tours run graph levels (node.nodeId :: path) (graph.successors node.nodeId)
        (Bag.extend vars result) log (gathered, .ok ()))
      (rest : Tours run graph (levels + 1) path nodes gathered more progress) :
      Tours run graph (levels + 1) path (node :: nodes) vars (entry :: log ++ more) progress

end Run

/-! ## Walks are tours -/

theorem Node.isClosed_of_isTrigger {node : Node} (trigger : node.isTrigger = true) (vars : Bag) :
    node.isClosed vars = false := by
  have role : node.nodeType = .trigger := by simpa [isTrigger] using trigger
  simp [isClosed, role, NodeType.isGate]

/-- Tables stay well formed while the calls of rules are noted. -/
theorem Program.Runs.wellFormed {α : Type} {p : Routine α} {s t : Watched} {r : α}
    (run : Runs watching p s r t) (wellFormed : s.state.store.WellFormed) :
    t.state.store.WellFormed := by
  induction run with
  | done value s => exact wellFormed
  | ask answered _ ih => exact ih (answered.1.wellFormed wellFormed)

namespace Run

variable {run : Run} {graph : Graph}

/-- A node is visited: it is met again, or it is run and ends the walk, or the walk
goes on below it. -/
theorem runs_visit {levels : Nat} {path : List String} {node : Node} {vars : Bag} {s t : Watched}
    {progress : Progress} (wellFormed : s.state.store.WellFormed)
    (visited : Runs watching (run.visit graph (levels + 1) path node vars) s progress t) :
    (node.nodeId ∈ path ∧ progress = (vars, .error (.failed (.cycleDetected node.nodeId))) ∧
        t = s) ∨
      node.nodeId ∉ path ∧ ∃ entry, run.Logs node vars entry ∧
        ((∃ e, entry.outcome.result node.nodeId = .error e ∧ progress = (vars, .error e) ∧
            t = s.logging [entry]) ∨
          ∃ value, entry.outcome = .returned value ∧ (s.logging [entry]).state.store.WellFormed ∧
            Runs watching (inTurn (run.visit graph levels (node.nodeId :: path))
              (graph.successors node.nodeId) (Bag.extend vars value)) (s.logging [entry])
              progress t) := by
  rw [visit] at visited
  split at visited
  · rename_i met
    rcases runs_done_iff.mp visited with ⟨rfl, rfl⟩
    exact .inl ⟨by simpa using met, rfl, rfl⟩
  · rename_i new
    rcases runs_bind_iff.mp visited with ⟨result, u, ran, visited⟩
    rcases runs_runNode narrows_watching wellFormed ran with ⟨entry, _, _, _, logs, _, rfl, rfl⟩
    refine .inr ⟨by simpa using new, entry, logs, ?_⟩
    cases returned : entry.outcome.result node.nodeId with
    | error e =>
        rw [returned] at visited
        rcases runs_done_iff.mp visited with ⟨rfl, rfl⟩
        exact .inl ⟨e, rfl, rfl, rfl⟩
    | ok value =>
        rw [returned] at visited
        exact .inr ⟨value, NodeOutcome.result_eq_ok_iff.mp returned, ran.wellFormed wellFormed,
          visited⟩

/-- Nodes that are visited in turn are taken up by a tour. -/
theorem tours_of_inTurn {levels : Nat} {path : List String} {nodes : List Node} {vars : Bag}
    {s t : Watched} {progress : Progress} (wellFormed : s.state.store.WellFormed)
    (ran : Runs watching (inTurn (run.visit graph levels path) nodes vars) s progress t) :
    ∃ log, run.Tours graph levels path nodes vars log progress ∧ t = s.logging log := by
  induction levels generalizing path nodes vars s progress t with
  | zero =>
      induction nodes with
      | nil =>
          rcases runs_done_iff.mp ran with ⟨rfl, rfl⟩
          exact ⟨[], .finished, by simp⟩
      | cons node rest ih =>
          rw [inTurn] at ran
          split at ran
          · rename_i closed
            rcases ih ran with ⟨log, tours, rfl⟩
            exact ⟨log, .passed closed tours, rfl⟩
          · rename_i entered
            rcases runs_done_iff.mp ran with ⟨rfl, rfl⟩
            exact ⟨[], .tooDeep (by simpa using entered), by simp⟩
  | succ levels below =>
      induction nodes generalizing vars s with
      | nil =>
          rcases runs_done_iff.mp ran with ⟨rfl, rfl⟩
          exact ⟨[], .finished, by simp⟩
      | cons node rest ih =>
          rw [inTurn] at ran
          split at ran
          · rename_i closed
            rcases ih wellFormed ran with ⟨log, tours, rfl⟩
            exact ⟨log, .passed closed tours, rfl⟩
          · rename_i entered
            have entered : node.isClosed vars = false := by simpa using entered
            rcases runs_bind_iff.mp ran with ⟨⟨gathered, outcome⟩, u, visited, ran⟩
            rcases runs_visit wellFormed visited with ⟨met, same, rfl⟩ | ⟨new, entry, logs, stops⟩
            · obtain ⟨rfl, rfl⟩ := Prod.mk.inj same
              rcases runs_done_iff.mp ran with ⟨rfl, rfl⟩
              exact ⟨[], .metAgain entered met, by simp⟩
            · rcases stops with ⟨e, stops, same, rfl⟩ | ⟨value, returned, stays, ranBelow⟩
              · obtain ⟨rfl, rfl⟩ := Prod.mk.inj same
                rcases runs_done_iff.mp ran with ⟨rfl, rfl⟩
                exact ⟨[entry], .stopped entered new logs stops, rfl⟩
              · rcases below stays ranBelow with ⟨log, toursBelow, rfl⟩
                cases outcome with
                | error e =>
                    rcases runs_done_iff.mp ran with ⟨rfl, rfl⟩
                    exact ⟨entry :: log, .stoppedBelow entered new logs returned toursBelow,
                      by simp⟩
                | ok _ =>
                    rcases ih (ranBelow.wellFormed stays) ran with ⟨more, toursRest, rfl⟩
                    exact ⟨entry :: log ++ more,
                      .wentOn entered new logs returned toursBelow toursRest, by simp⟩

/-- Roots are triggers, and no gate is passed by among them. -/
theorem visitRoots_eq_inTurn {roots : List Node} (triggers : ∀ root ∈ roots, root.isTrigger = true)
    (vars : Bag) :
    run.visitRoots graph roots vars =
      inTurn (run.visit graph run.engine.config.effectiveMaxDepth []) roots vars := by
  induction roots generalizing vars with
  | nil => rfl
  | cons root rest ih =>
      have isOpen := Node.isClosed_of_isTrigger (triggers root List.mem_cons_self) vars
      have rest_eq := ih fun other otherMem => triggers other (List.mem_cons_of_mem root otherMem)
      simp only [visitRoots, inTurn, isOpen, rest_eq]
      rfl

/-- A walk finds no trigger, or is a tour from its roots. -/
inductive Walks (run : Run) (graph : Graph) (flowId : FlowId) (triggerType : String) (vars : Bag) :
    List LogEntry → Progress → Prop where
  | noTrigger (none : graph.triggers = []) :
      Walks run graph flowId triggerType vars [] (vars, .error (.failed (.noTriggerNodes flowId)))
  | toured {log : List LogEntry} {progress : Progress} (some : graph.triggers ≠ [])
      (tours : run.Tours graph run.engine.config.effectiveMaxDepth [] (graph.roots triggerType) vars
        log progress) :
      Walks run graph flowId triggerType vars log progress

theorem runs_walk {flow : Flow} {triggerType : String} {vars : Bag} {s t : Watched}
    {progress : Progress} (wellFormed : s.state.store.WellFormed)
    (ran : Runs watching (run.walk flow triggerType vars) s progress t) :
    ∃ log, run.Walks (.ofRows (s.state.store.listNodes flow.id) (s.state.store.listEdges flow.id))
        flow.id triggerType vars log progress ∧
      t = s.logging log := by
  simp only [walk, Service.store_bind] at ran
  rcases watching_store_iff.mp ran with ⟨_, ran⟩
  rcases watching_store_iff.mp ran with ⟨_, ran⟩
  simp only [Store.answer] at ran
  set graph := Graph.ofRows (s.state.store.listNodes flow.id) (s.state.store.listEdges flow.id)
  by_cases none : graph.triggers = []
  · simp only [none, List.isEmpty_nil, if_true] at ran
    rcases runs_done_iff.mp ran with ⟨rfl, rfl⟩
    exact ⟨[], .noTrigger none, by simp⟩
  · have some : graph.triggers.isEmpty = false := by simpa using none
    simp only [some] at ran
    have triggers : ∀ root ∈ graph.roots triggerType, root.isTrigger = true := by
      intro root rootMem
      exact (List.mem_filter.mp (List.mem_filter.mp rootMem).1).2
    have inOrder : Runs watching (inTurn _ (graph.roots triggerType) vars) s progress t :=
      visitRoots_eq_inTurn triggers vars ▸ ran
    rcases tours_of_inTurn wellFormed inOrder with ⟨log, tours, left⟩
    exact ⟨log, .toured none tours, left⟩

end Run

end EventFlow
