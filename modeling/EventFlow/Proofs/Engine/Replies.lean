import EventFlow.Proofs.Engine.Course
import Mathlib.Algebra.Order.BigOperators.Group.List
import Mathlib.Algebra.Order.Group.Nat

/-!
# What rules reply

What the rules outside of the library reply may be a function of what they are called with
and of the calls that were made before.  Then what comes of a node is a function of these
calls, of the node and of the variables: it depends neither on the id of the run nor on the
clock, and not on what the tables hold.
-/

namespace EventFlow

open Program

/-! ## Replies -/

/-- What the rules outside of the library reply to a call behind other calls.  That a rule
takes too long is one of the replies. -/
abbrev Replies : Type := (before : List RuleCall) → (call : RuleCall) → Reply call.request.Result

namespace Store

/-- An id that is longer than those of all executions. -/
def unusedId (s : Store) : ExecutionId :=
  let lengths := s.executions.map fun row => row.executionId.text.length
  ⟨String.ofList (List.replicate (lengths.foldr (· + ·) 0 + 1) 'x')⟩

theorem isBlank_unusedId (s : Store) : s.unusedId.isBlank = false := by
  simp [unusedId, ExecutionId.isBlank, Text.isAllBlank, Text.isBlank]

theorem getExecution_unusedId (s : Store) : s.getExecution s.unusedId = none := by
  apply List.find?_eq_none.mpr
  intro row rowMem found
  have sameId : row.executionId = s.unusedId := by simpa using found
  have shorter := List.le_sum_of_mem
    (List.mem_map_of_mem (f := fun row : Execution => row.executionId.text.length) rowMem)
  simp only [sameId, unusedId, String.length_ofList, List.length_replicate,
    ← List.sum_eq_foldr] at shorter
  omega

end Store

namespace Replies

variable {replies : Replies}

/-- May a question be answered so?  Rules reply what they always reply to the call, and a
fresh id is one that no execution has. -/
def Allows (replies : Replies) (s : Watched) : (q : ServiceCall) → q.Answer → Prop
  | .invoke handle context params request limit, reply =>
    reply = replies s.notes ⟨handle, context, params, request, limit⟩
  | .freshId, id => s.state.store.getExecution id = none
  | _, _ => True

/-- The answers that tables and such rules give while calls are noted. -/
abbrev answering (replies : Replies) : Answering service Watched :=
  fun s q a t => watching s q a t ∧ replies.Allows s q a

theorem narrows (replies : Replies) : Narrows replies.answering :=
  fun _ _ _ _ answered => answered.1

/-- An answer to every question, at one and the same time. -/
def answerAt (replies : Replies) (now : Instant) (s : Watched) : (q : ServiceCall) →
    q.Answer × Watched
  | .invoke handle context params request limit =>
    let call : RuleCall := ⟨handle, context, params, request, limit⟩
    (replies s.notes call, ⟨s.state, s.notes ++ [call]⟩)
  | .freshId => (s.state.store.unusedId, ⟨s.state, s.notes ++ []⟩)
  | q => watchAt now s q

theorem answering_answerAt (replies : Replies) (now : Instant) (s : Watched) (q : ServiceCall) :
    replies.answering s q (replies.answerAt now s q).1 (replies.answerAt now s q).2 := by
  cases q with
  | invoke => exact ⟨⟨rfl, rfl⟩, rfl⟩
  | freshId =>
      have free := s.state.store.getExecution_unusedId
      exact ⟨⟨⟨s.state.store.isBlank_unusedId, rfl⟩, rfl⟩, free⟩
  | _ => exact ⟨watching_watchAt now s _, trivial⟩

/-- No question stays without an answer. -/
theorem exists_answers (replies : Replies) (s : Watched) (q : ServiceCall) :
    ∃ a t, replies.answering s q a t :=
  ⟨_, _, replies.answering_answerAt (.ofMilliseconds 0) s q⟩

/-- Every program of a daemon runs to its end. -/
theorem exists_runs {α : Type} (replies : Replies) (p : Routine α) (s : Watched) :
    ∃ r t, Runs replies.answering p s r t :=
  Program.exists_runs replies.exists_answers p s

/-! ## Programs that turn to rules only -/

/-- The reply to a question, which is noted.  What is no call of a rule is not asked here. -/
def replyTo (replies : Replies) (calls : List RuleCall) : (q : ServiceCall) →
    q.Answer × List RuleCall
  | .invoke handle context params request limit =>
    (replies calls ⟨handle, context, params, request, limit⟩,
      calls ++ [⟨handle, context, params, request, limit⟩])
  | q => ((Shared.answerAt (.ofMilliseconds 0) ⟨.empty, .empty⟩ q).1, calls)

section AsksRules

variable {α : Type} {p : Routine α}

/-- A program that turns to rules only is a function of what they reply. -/
theorem runs_eq_run (asks : AsksRules p) {s t : Watched} {r : α}
    (ran : Runs replies.answering p s r t) :
    r = (p.run replies.replyTo s.notes).1 ∧
      t = ⟨s.state, (p.run replies.replyTo s.notes).2⟩ := by
  induction p generalizing s with
  | done value => exact runs_done_iff.mp ran
  | ask q next ih =>
      cases q with
      | invoke handle context params request limit =>
          rcases runs_ask_iff.mp ran with ⟨reply, u, ⟨⟨same, noted⟩, replied⟩, rest⟩
          rcases ih _ (asks.2 _) rest with ⟨result, left⟩
          rw [noted, show reply = _ from replied] at result left
          exact ⟨result, left.trans (by rw [show u.state = s.state from same]; rfl)⟩
      -- Such a program asks nothing else.
      | _ => exact absurd asks.1 Bool.false_ne_true

/-- Its calls are noted behind those that were made before. -/
theorem run_replyTo_grows (asks : AsksRules p) (calls : List RuleCall) :
    ∃ more, (p.run replies.replyTo calls).2 = calls ++ more := by
  induction p generalizing calls with
  | done value => exact ⟨[], by simp [run]⟩
  | ask q next ih =>
      cases q with
      | invoke handle context params request limit =>
          rcases ih (replies calls ⟨handle, context, params, request, limit⟩) (asks.2 _)
            (calls ++ [⟨handle, context, params, request, limit⟩]) with ⟨more, same⟩
          refine ⟨⟨handle, context, params, request, limit⟩ :: more, same.trans ?_⟩
          rw [List.append_assoc, List.singleton_append]
      | _ => exact absurd asks.1 Bool.false_ne_true

end AsksRules

end Replies

/-! ## One node -/

/-- What comes of a node, and the calls of rules that it takes. -/
structure Performance where
  calls : List RuleCall
  outcome : NodeOutcome

/-- How a node is performed on some variables behind some calls.  The id of the run does not
matter. -/
def Engine.performance (engine : Engine) (context : RuleContext) (replies : Replies)
    (before : List RuleCall) (node : Node) (vars : Bag) : Performance :=
  let made := ((⟨engine, ⟨""⟩, context⟩ : Run).perform node vars).run replies.replyTo before
  ⟨made.2.drop before.length, made.1⟩

namespace Run

variable {run : Run} {replies : Replies} {node : Node} {vars : Bag} {s t : Watched}

theorem runs_perform_eq {outcome : NodeOutcome}
    (ran : Runs replies.answering (run.perform node vars) s outcome t) :
    outcome = (run.engine.performance run.context replies s.notes node vars).outcome ∧
      t = ⟨s.state,
        s.notes ++ (run.engine.performance run.context replies s.notes node vars).calls⟩ := by
  have asks := perform_asksRules run node vars
  rcases Replies.runs_eq_run asks ran with ⟨result, left⟩
  have grows : ∃ more, ((run.perform node vars).run replies.replyTo s.notes).2 = s.notes ++ more :=
    Replies.run_replyTo_grows asks s.notes
  rcases grows with ⟨more, noted⟩
  have calls : (run.engine.performance run.context replies s.notes node vars).calls = more := by
    have dropped := congrArg (List.drop s.notes.length) noted
    rw [List.drop_left] at dropped
    exact dropped
  rw [calls, ← noted]
  exact ⟨result, left⟩

/-- A node that is run leaves the entry of its performance. -/
theorem runs_runNode_eq (wellFormed : s.state.store.WellFormed) {result : Except Abort Bag}
    (ran : Runs replies.answering (run.runNode node vars) s result t) :
    ∃ entry, run.Logs node vars entry ∧ entry.job.attempt = 1 ∧
      (⟨entry.calls, entry.outcome⟩ : Performance) =
        run.engine.performance run.context replies s.notes node vars ∧
      result = entry.outcome.result node.nodeId ∧ t = s.logging [entry] := by
  rcases runs_runNode replies.narrows wellFormed ran with
    ⟨entry, u, performed, notes, logs, attempt, same, left⟩
  rcases runs_perform_eq performed with ⟨outcome, called⟩
  rw [notes] at outcome called
  have calls : entry.calls =
      (run.engine.performance run.context replies s.notes node vars).calls :=
    List.append_cancel_left (congrArg Noted.notes called)
  exact ⟨entry, logs, attempt, by rw [calls, outcome], same, left⟩

end Run

end EventFlow
