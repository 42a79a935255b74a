import EventFlow.Proofs.Queue.Order
import Mathlib.Data.Set.Function

/-!
# Claiming jobs safely

However the steps of workers, of calls that queue requests and of others follow
each other, the running jobs are those that workers hold, one by one.  No job is
lost, counted twice or moved to another place, and what was fixed when it was
pushed stays so.  A claim takes the oldest job that is due.
-/

namespace EventFlow.QueueSystem

open QueueTable

variable {manager : QueueManager} {bystanders : Bystanders} {s t : QueueSystem}

theorem Reachable.identities (reachable : Reachable manager bystanders s)
    (later : Later manager bystanders s t) :
    s.jobs.map QueueJob.identity <+: t.jobs.map QueueJob.identity := by
  induction later with
  | refl => exact List.prefix_refl _
  | tail before step ih => exact ih.trans ((reachable.later before).orderly.identities step)

/-- Workers and running jobs belong together. -/
theorem Orderly.bijOn_held? (orderly : s.Orderly) :
    Set.BijOn s.held? {w | s.held? w ≠ none}
      {holding | ∃ job ∈ s.jobs, job.status = .running ∧ holding = some job} := by
  refine ⟨?_, ?_, ?_⟩
  · intro w holds
    obtain ⟨job, held⟩ := Option.ne_none_iff_exists'.mp holds
    obtain ⟨jobMem, running⟩ := orderly.held w job held
    exact ⟨job, jobMem, running, held⟩
  · intro v holds w _ same
    obtain ⟨job, held⟩ := Option.ne_none_iff_exists'.mp holds
    exact orderly.alone v w job held (same ▸ held)
  · rintro _ ⟨job, jobMem, running, rfl⟩
    obtain ⟨w, held⟩ := orderly.holder job jobMem running
    exact ⟨w, by simp [held], held⟩

/-- Two workers never run the same execution. -/
theorem Named.eq_of_executionId (named : s.Named) (orderly : s.Orderly) {v w : Nat}
    {first second : QueueJob} (holdsFirst : s.held? v = some first)
    (holdsSecond : s.held? w = some second) (same : first.executionId = second.executionId) :
    v = w := by
  have firstMem := (orderly.held v first holdsFirst).1
  have secondMem := (orderly.held w second holdsSecond).1
  obtain rfl := List.inj_on_of_nodup_map named.distinct firstMem secondMem same
  exact orderly.alone v w first holdsFirst holdsSecond

/-- In every state that a system comes to, the running jobs are the ones that
workers hold, each held by one worker and each worker's execution run by no other;
none is left when no worker holds any.  The table is numbered from one on and only
ever grows at its end, jobs are locked while they run and not while they are
pending, and a claim returns the pending job with the smallest number among those
that are due, or nothing if there is none.  With a queue, the calls that claim and
push are the manager's `processNext` and `enqueue`. -/
theorem Reachable.claims_safe (reachable : Reachable manager bystanders s) :
    Set.BijOn s.held? {w | s.held? w ≠ none}
        {holding | ∃ job ∈ s.jobs, job.status = .running ∧ holding = some job} ∧
      (∀ v w first second, s.held? v = some first → s.held? w = some second →
        first.executionId = second.executionId → v = w) ∧
      ((∀ w, s.held? w = none) → ∀ job ∈ s.jobs, job.status ≠ .running) ∧
      (s.jobs.map fun job => job.id.value) =
        ((List.range s.jobs.length).map fun (place : Nat) => (place : Int) + 1) ∧
      (∀ t, Later manager bystanders s t →
        s.jobs.map QueueJob.identity <+: t.jobs.map QueueJob.identity) ∧
      (∀ job ∈ s.jobs, (job.status = .pending → job.lockedAt = none) ∧
        (job.status = .running → job.lockedAt.isSome = true)) ∧
      (∀ now, Claims now s.tables.queue (s.tables.queue.claimNext now).2
        (s.tables.queue.claimNext now).1) ∧
      (manager.enabled = true → s.FollowsPrograms manager) := by
  have orderly := reachable.orderly
  refine ⟨orderly.bijOn_held?, ?_, ?_, orderly.numbered.ids, ?_, ?_, orderly.numbered.claimNext,
    fun enabled => followsPrograms enabled s⟩
  · intro v w first second
    exact reachable.named.eq_of_executionId orderly
  · intro idle job jobMem running
    obtain ⟨w, held⟩ := orderly.holder job jobMem running
    simp [idle w] at held
  · intro t later
    exact reachable.identities later
  · intro job jobMem
    exact ⟨orderly.unlocked job jobMem, orderly.locked job jobMem⟩

/-- A claimed job is held. -/
theorem claims_safe_of_first_job :
    FirstJob.claimed.Reachable FirstJob.manager .any ∧
      ∃ job ∈ FirstJob.claimed.jobs, job.status = .running ∧
        ∃ w, FirstJob.claimed.held? w = some job := by
  have reachable : FirstJob.claimed.Reachable FirstJob.manager .any :=
    FirstJob.claimed_reachable trivial
  refine ⟨reachable, FirstJob.job.claim (.ofMilliseconds 2), List.mem_singleton_self _, rfl, ?_⟩
  obtain ⟨w, _, held⟩ := reachable.claims_safe.1.surjOn ⟨_, List.mem_singleton_self _, rfl, rfl⟩
  exact ⟨w, held⟩

end EventFlow.QueueSystem
