import EventFlow.Proofs.Engine.Losing
import EventFlow.Proofs.Engine.Metadata

/-!
# Jobs are recorded as well as can be

The jobs of a run are records for those who look at it afterwards.  That some of them cannot be
written is no matter of the run: it calls the same rules with the same arguments, returns the
same and closes its execution in the same way as if all jobs had been written.  Of the jobs that
would have been there, those are missing that could not be created, and those whose end could
not be written are still started.
-/

namespace EventFlow

open Program

namespace Attempt

/-- The second run differs from the first in its id, in times and in lost jobs only.  Either
both are rejected and store nothing, or both leave a row that tells the same. -/
structure LosesOnly (fails : Nat → Bool) (first second : Attempt) : Prop where
  result : second.result = first.result.map fun _ => second.id
  calls : second.calls = first.calls
  jobs : ∃ these those, first.after.store.jobs = first.before.store.jobs ++ these ∧
    second.after.store.jobs = second.before.store.jobs ++ those ∧
    those.map Job.essence = Job.leftOf fails 0 (these.map Job.essence) ∧
    (∀ job ∈ these, job.executionId = first.id) ∧ ∀ job ∈ those, job.executionId = second.id
  rows : (∃ e, first.result = .error e ∧ e.isRejection = true ∧ first.after = first.before ∧
      second.after = second.before) ∨
    ∃ row other, first.after.store.getExecution first.id = some row ∧
      second.after.store.getExecution second.id = some other ∧
      row.essence = other.essence ∧ row.vars = other.vars

variable {engine : Engine} {replies : Replies} {fails : Nat → Bool} {request : FlowRequest}
  {first second : Attempt}

/-- Runs that are rejected for one reason lose nothing. -/
theorem RejectedWith.losesOnly {e : EngineError} (rejected : first.RejectedWith e)
    (otherRejected : second.RejectedWith e) : first.LosesOnly fails second where
  result := by rw [rejected.result, otherRejected.result, Except.map]
  calls := by rw [rejected.uncalled, otherRejected.uncalled]
  jobs := ⟨[], [], by simp [rejected.unchanged], by simp [otherRejected.unchanged], rfl, by simp,
    by simp⟩
  rows := .inl ⟨e, rejected.result, rejected.rejection, rejected.unchanged,
    otherRejected.unchanged⟩

/-- Runs that come to one forecast, with jobs lost in the second, differ in these jobs only. -/
theorem ForetoldBy.losesOnly {forecast : Forecast} (foretold : first.ForetoldBy request forecast)
    (otherForetold : second.ForetoldLosing fails request forecast)
    (sameVars : first.varsBefore = second.varsBefore) : first.LosesOnly fails second := by
  rcases foretold.row with ⟨row, now, opens, stored⟩
  rcases otherForetold.row with ⟨other, later, otherOpens, otherStored⟩
  refine ⟨?_, ?_, ?_, .inr ⟨_, _, stored, otherStored, ?_, ?_⟩⟩
  · rw [foretold.result, otherForetold.result]
    cases Engine.resultOf forecast.progress.2 <;> rfl
  · rw [foretold.calls, otherForetold.calls]
  · rcases foretold.jobs with ⟨these, recorded, told, ids⟩
    rcases otherForetold.jobs with ⟨those, otherRecorded, left, otherIds⟩
    refine ⟨these, those, recorded, otherRecorded, ?_, ids, otherIds⟩
    rw [left, told]
  · exact opens.essence_closedWith otherOpens now later forecast.progress
  · have openedAlike : row.vars = other.vars :=
      opens.vars.trans (sameVars.trans otherOpens.vars.symm)
    rw [Engine.vars_closedWith, Engine.vars_closedWith]
    rcases forecast.progress with ⟨vars, (e | message) | _⟩
    · rfl
    · exact openedAlike
    · rfl

/-- A run that loses jobs differs from one that loses none in these jobs only, if both start
from the same tables and have the same id, or each an id that is new. -/
theorem Executes.losesOnly (executes : first.Executes engine replies request)
    (losing : second.ExecutesLosing fails engine replies request)
    (sameBefore : second.before = first.before)
    (ids : second.id = first.id ∨ first.before.store.getExecution first.id = none ∧
      first.before.store.getExecution second.id = none) : first.LosesOnly fails second := by
  have sameVars : first.varsBefore = second.varsBefore := by
    rw [varsBefore, varsBefore, sameBefore]
    rcases ids with sameId | ⟨absent, otherAbsent⟩
    · rw [sameId]
    · rw [absent, otherAbsent]
  have sameBound : Engine.bound? second.before.store second.id request.flowId =
      Engine.bound? first.before.store first.id request.flowId := by
    rw [sameBefore]
    rcases ids with sameId | ⟨absent, otherAbsent⟩
    · rw [sameId]
    · rw [Engine.bound?, otherAbsent, Engine.bound?, absent]
      rfl
  -- Both are refused, and for the same reason, or none is.
  have refusals := Engine.refusal?_congr (by rw [sameBefore]) sameBound
  rcases executes.rejected_or_foretold with
    ⟨e, refused, rejected⟩ | ⟨flow, accepted, found, foretold⟩
  · rcases losing.rejected_or_foretold with
      ⟨other, otherRefused, otherRejected⟩ | ⟨_, otherAccepted, _⟩
    · obtain rfl := Option.some.inj (refused.symm.trans (refusals.symm.trans otherRefused))
      exact rejected.losesOnly otherRejected
    · simp [refusals, refused] at otherAccepted
  · rcases losing.rejected_or_foretold with
      ⟨other, otherRefused, _⟩ | ⟨_, _, otherFound, otherForetold⟩
    · simp [refusals, accepted] at otherRefused
    · rw [sameBefore] at otherFound otherForetold
      obtain rfl := Option.some.inj (otherFound.symm.trans found)
      exact foretold.losesOnly otherForetold sameVars

/-- An execution that may lose jobs is a run under the id that is given, or under one that no
execution has. -/
theorem exists_executesLosing_of_runs {given : Option ExecutionId} {before after : Shared}
    {calls : List RuleCall} {result : Except EngineError ExecutionId} {tally : Nat}
    (wellFormed : before.store.WellFormed)
    (ran : Runs (replies.losing fails) (engine.execute given request) ⟨⟨before, []⟩, 0⟩ result
      ⟨⟨after, calls⟩, tally⟩) :
    ∃ id, ExecutesLosing ⟨id, before, after, calls, result⟩ fails engine replies request ∧
      ((given = some id ∧ id.isBlank = false) ∨
        (∀ named, given = some named → named.isBlank = true) ∧
          before.store.getExecution id = none) := by
  unfold Engine.execute at ran
  cases usable : given.filter fun id => ! id.isBlank with
  | some id =>
      rw [usable] at ran
      rcases Option.filter_eq_some_iff.mp usable with ⟨rfl, named⟩
      exact ⟨id, ⟨wellFormed, tally, ran⟩, .inl ⟨rfl, by simpa using named⟩⟩
  | none =>
      simp only [usable, Service.freshId_bind] at ran
      rcases runs_ask_iff.mp ran with ⟨id, ⟨⟨u, notes⟩, n⟩, answered, ran⟩
      rcases answered.of_spares rfl with ⟨⟨⟨⟨_, same⟩, noted⟩, free⟩, sameTally⟩
      obtain rfl : u = before := same
      obtain rfl : notes = [] := by simpa [noteCall, ServiceCall.ruleCall?] using noted
      obtain rfl : n = 0 := sameTally
      refine ⟨id, ⟨wellFormed, tally, ran⟩, .inr ⟨?_, free⟩⟩
      rintro named rfl
      simpa [Option.filter] using usable

end Attempt

namespace Engine

/-- Whatever jobs the store fails to write, an execution comes to an end, calls the same rules
with the same arguments, returns the same and leaves the same row, up to times, as where no job
is lost.  Of the jobs it leaves those that could be created, as they are where no job is lost,
or still started if their end could not be written. -/
theorem execute_losesOnly (engine : Engine) (replies : Replies) (fails : Nat → Bool)
    (given : Option ExecutionId) (request : FlowRequest) (before : Shared)
    (wellFormed : before.store.WellFormed) :
    (∃ result after calls tally, Runs (replies.losing fails) (engine.execute given request)
      ⟨⟨before, []⟩, 0⟩ result ⟨⟨after, calls⟩, tally⟩) ∧
    ∀ result after calls otherResult otherAfter otherCalls tally,
      Runs replies.answering (engine.execute given request) ⟨before, []⟩ result ⟨after, calls⟩ →
      Runs (replies.losing fails) (engine.execute given request) ⟨⟨before, []⟩, 0⟩ otherResult
        ⟨⟨otherAfter, otherCalls⟩, tally⟩ →
      ∃ id otherId,
        (∀ named, given = some named → named.isBlank = false → id = named ∧ otherId = named) ∧
          Attempt.LosesOnly fails ⟨id, before, after, calls, result⟩
            ⟨otherId, before, otherAfter, otherCalls, otherResult⟩ := by
  constructor
  · rcases replies.exists_runs_losing fails (engine.execute given request) ⟨⟨before, []⟩, 0⟩ with
      ⟨result, ⟨⟨after, calls⟩, tally⟩, ran⟩
    exact ⟨result, after, calls, tally, ran⟩
  · intro result after calls otherResult otherAfter otherCalls tally ran ranLosing
    rcases Attempt.exists_executes_of_runs wellFormed ran with ⟨id, executes, given_eq, origin⟩
    rcases Attempt.exists_executesLosing_of_runs wellFormed ranLosing with
      ⟨otherId, losing, ⟨rfl, named⟩ | ⟨unnamed, otherFresh⟩⟩
    · obtain rfl := given_eq otherId rfl named
      refine ⟨id, id, ?_, executes.losesOnly losing rfl (.inl rfl)⟩
      rintro named ⟨⟩ _
      exact ⟨rfl, rfl⟩
    · refine ⟨id, otherId, ?_, executes.losesOnly losing rfl (.inr ⟨?_, otherFresh⟩)⟩
      · intro named given_eq notBlank
        rw [unnamed named given_eq] at notBlank
        contradiction
      · rcases origin with given_eq | fresh
        · have blank := unnamed id given_eq
          rw [executes.named] at blank
          contradiction
        · exact fresh

end Engine

namespace Relay

def engine : Engine := .create Bot.Dev.registry .default

def tables : Shared := ⟨Engine.relayStore, .empty⟩

/-- Rules of which none replies in time. -/
def replies : Replies := fun _ _ => .expired

/-- The end of the first job and the creation of the second one fail. -/
def fails (n : Nat) : Bool := n == 1 || n == 2

/-- A run of the flow in which no job is lost. -/
def run : Except EngineError ExecutionId × Watched :=
  (engine.execute (some ⟨"run"⟩) Engine.greetingRequest).run
    (replies.answerAt (.ofMilliseconds 7)) ⟨tables, []⟩

end Relay

/-- Of the two jobs of a run one is left, and it is still started.  The run succeeds all the
same. -/
theorem Engine.execute_losesOnly_relay :
    Relay.run.1 = .ok ⟨"run"⟩ ∧
      Relay.run.2.state.store.jobs.map (fun job => (job.nodeId, job.state)) =
        [("start", .succeeded), ("act", .succeeded)] ∧
      ∃ after calls tally,
        Runs (Relay.replies.losing Relay.fails)
          (Relay.engine.execute (some ⟨"run"⟩) Engine.greetingRequest) ⟨⟨Relay.tables, []⟩, 0⟩
          (.ok ⟨"run"⟩) ⟨⟨after, calls⟩, tally⟩ ∧
        calls = Relay.run.2.notes ∧
        after.store.jobs.map (fun job => (job.nodeId, job.state)) = [("start", .start)] := by
  have ran : Runs Relay.replies.answering _ ⟨Relay.tables, []⟩ Relay.run.1 Relay.run.2 :=
    runs_run (Relay.replies.answering_answerAt _) _ _
  have succeeded : Relay.run.1 = .ok ⟨"run"⟩ := by decide +kernel
  have recorded : Relay.run.2.state.store.jobs.map (fun job => (job.nodeId, job.state)) =
      [("start", .succeeded), ("act", .succeeded)] := by decide +kernel
  have left : (Job.leftOf Relay.fails 0 (Relay.run.2.state.store.jobs.map Job.essence)).map
      (fun job => (job.nodeId, job.state)) = [("start", .start)] := by decide +kernel
  refine ⟨succeeded, recorded, ?_⟩
  rcases Engine.execute_losesOnly Relay.engine Relay.replies Relay.fails (some ⟨"run"⟩)
    Engine.greetingRequest Relay.tables Engine.relayStore_reachable.wellFormed with
    ⟨⟨result, after, calls, tally, lost⟩, alike⟩
  rcases alike _ _ _ _ _ _ _ ran lost with ⟨id, otherId, ids, losesOnly⟩
  obtain ⟨rfl, rfl⟩ := ids ⟨"run"⟩ rfl (by decide +kernel)
  have sameResult : result = Relay.run.1.map fun _ => ⟨"run"⟩ := losesOnly.result
  rw [succeeded] at sameResult
  cases sameResult
  rcases losesOnly.jobs with ⟨these, those, all, kept, told, _⟩
  have all : Relay.run.2.state.store.jobs = these := all
  have kept : after.store.jobs = those := kept
  refine ⟨after, calls, tally, lost, losesOnly.calls, ?_⟩
  rw [all, ← told, List.map_map] at left
  rw [kept, ← left]
  rfl

end EventFlow
