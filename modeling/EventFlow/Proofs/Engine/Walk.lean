import EventFlow.Engine.Walk
import EventFlow.Proofs.Shared
import EventFlow.Proofs.Store.Change

/-!
# What a walk leaves alone

A walk under an id records jobs of its execution and changes nothing else, also
when other tasks use the same store between any two of its questions, provided
that they leave the rows of the execution alone.  It fails for a reason of its
own: what keeps an execution from being opened is never among them.
-/

namespace EventFlow

open Program Shared

namespace Job

/-- A job that ends stays the row that it was. -/
theorem sameRow_of_finish {job ended : Job} {now : Instant} {target : JobState} {f : Job → Job}
    (keeps : ∀ j, (f j).id = j.id ∧ (f j).executionId = j.executionId)
    (finished : (job.finish now target).map f = .ok ended) :
    ended.id = job.id ∧ ended.executionId = job.executionId := by
  unfold finish at finished
  split at finished
  · cases finished
    exact keeps _
  · contradiction

end Job

/-- The reasons for which a walk fails. -/
def EngineError.isOfWalk : EngineError → Bool
  | .noTriggerNodes _ => true
  | .cycleDetected _ => true
  | .maxDepthExceeded _ _ => true
  | .nodeFailed _ _ => true
  | _ => false

/-- If a part of a walk fails, it does so for a reason of walks. -/
def EndsAsWalk {α : Type} (result : Except Abort α) : Prop :=
  ∀ e, result = .error (.failed e) → e.isOfWalk = true

/-- What other tasks may do beside a run under an id: in any number of steps,
nothing to the rows of the execution. -/
structure Apart (id : ExecutionId) (others : Shared → Shared → Prop) : Prop where
  refl : ∀ s, others s s
  trans : ∀ {s t u}, others s t → others t u → others s u
  sameFor : ∀ s t, others s t → s.store.SameFor id t.store

/-- The terms of a walk under an id.  The jobs with numbers up to `base` are
those that were there before. -/
def walkTerms (id : ExecutionId) (base : Int) (others : Shared → Shared → Prop) : Terms Shared where
  valid s := s.store.WellFormed ∧ base ≤ s.store.lastId
  rely := others
  guarantee s t := t.queue = s.queue ∧ t.store.executions = s.store.executions ∧
    s.store.ChangesOnly id base t.store

namespace Run

variable {id : ExecutionId} {base : Int} {others : Shared → Shared → Prop}

theorem walkTerms_guarantee_refl (s : Shared) : (walkTerms id base others).guarantee s s :=
  ⟨rfl, rfl, .refl id base s.store⟩

/-- A question that changes no table is within the terms. -/
theorem keeps_ask_of_quiet {α : Type} {q : ServiceCall} {next : q.Answer → Routine α}
    {ensures : α → Shared → Prop} {s : Shared}
    (quiet : ∀ {t a u}, Answers t q a u → u = t)
    (rest : ∀ a t, others s t → t.store.WellFormed → base ≤ t.store.lastId →
      Keeps answering (walkTerms id base others) ensures (next a) t) :
    Keeps answering (walkTerms id base others) ensures (.ask q next) s := by
  intro t apart valid a u answered
  obtain rfl := quiet answered
  exact ⟨walkTerms_guarantee_refl u, rest a u apart valid.1 valid.2⟩

/-! ## One node -/

/-- The jobs of the execution are the same behind the call of a rule. -/
theorem perform_keeps (apart : Apart id others) (run : Run)
    (node : Node) (vars : Bag) (s : Shared) :
    Keeps answering (walkTerms id base others)
      (fun _ t => t.store.listJobs id = s.store.listJobs id) (run.perform node vars) s := by
  have called {α : Type} {handle : Handle} {context : RuleContext} {params : Bag}
      {request : Request} {limit : Duration} (f : Reply request.Result → α) :
      Keeps answering (walkTerms id base others)
        (fun _ t => t.store.listJobs id = s.store.listJobs id)
        (.ask (.invoke handle context params request limit) fun reply => .done (f reply)) s := by
    refine keeps_ask_of_quiet (fun answered => answered) fun _ t between _ _ => ?_
    exact (apart.sameFor s t between).jobs
  unfold perform
  cases node.nodeType with
  | trigger =>
      cases run.engine.registry.findTrigger node.bot node.ruleId with
      | error e => exact rfl
      | ok rule =>
          simp only [runTrigger]
          cases rule.check (run.engine.renderer.params vars node.parameters) with
          | error e => exact rfl
          | ok checked =>
              simp only [TriggerRule.extract]
              cases rule.extraction with
              | immediate answer => exact rfl
              | external handle => exact called _
  | action =>
      cases run.engine.registry.findAction node.bot node.ruleId with
      | error e => exact rfl
      | ok rule =>
          simp only [runAction]
          cases rule.validate (run.engine.renderer.params vars node.parameters) with
          | error e => exact rfl
          | ok checked =>
              simp only [ActionRule.run]
              cases rule.effect with
              | immediate answer => exact rfl
              | external handle => exact called _
  | filter | condition => exact rfl

/-- A job that the run has recorded is ended within the terms. -/
theorem recordEnd_keeps (apart : Apart id others)
    {finish : Instant → Except TransitionError Job} {row : Job} {s : Shared}
    (rowMem : row ∈ s.store.listJobs id) (late : base < row.id.value)
    (sameRow : ∀ now job, finish now = .ok job → job.id = row.id ∧ job.executionId = id) :
    Keeps answering (walkTerms id base others) (fun _ _ => True) (recordEnd finish) s := by
  simp only [recordEnd, Service.now_bind, Service.store_bind]
  refine keeps_ask_of_quiet (fun answered => answered) fun now t between _ _ => ?_
  cases finished : finish now with
  | error e => exact trivial
  | ok job =>
      obtain ⟨sameId, rfl⟩ := sameRow now job finished
      rintro u later ⟨wellFormed, _⟩ result v ⟨_, _, rfl⟩
      rw [← (apart.sameFor s t between).jobs, ← (apart.sameFor t u later).jobs] at rowMem
      refine ⟨⟨rfl, ?_, ?_⟩, trivial⟩
      · simp only [Store.answer, Store.updateJob]
        split <;> rfl
      · exact Store.updateJob_changesOnly wellFormed rowMem sameId.symm (sameId ▸ late)

/-- A node is run within the terms. -/
theorem runNode_keeps (apart : Apart id others) {run : Run}
    (under : run.executionId = id) (node : Node) (vars : Bag) (s : Shared) :
    Keeps answering (walkTerms id base others) (fun result _ => EndsAsWalk result)
      (run.runNode node vars) s := by
  simp only [runNode, Service.now_bind, Service.store_bind]
  refine keeps_ask_of_quiet (fun answered => answered) fun now t _ _ _ => ?_
  rintro u between ⟨wellFormed, base_le⟩ created v ⟨time, rfl, rfl⟩
  set started := Job.start now run.executionId node with started_def
  have startedFor : started.executionId = id := by simp [started_def, Job.start, under]
  refine ⟨⟨rfl, rfl, startedFor ▸ Store.createJob_changesOnly started base_le⟩, ?_⟩
  -- The new row stays in the table while the rule is called.
  set row : Job := { started with id := ⟨u.store.lastId + 1⟩ } with row_def
  have rowMem : row ∈ (u.store.createJob started).2.listJobs id := by
    simp [Store.mem_listJobs_iff, Store.createJob, row_def, startedFor]
  have late : base < row.id.value := by
    simp only [row_def]
    omega
  have finishes (f : Instant → Job → Except TransitionError Job)
      (sameRow : ∀ now job, f now row = .ok job →
        job.id = row.id ∧ job.executionId = row.executionId)
      {w : Shared} (kept : w.store.listJobs id = (u.store.createJob started).2.listJobs id) :
      Keeps answering (walkTerms id base others) (fun _ _ => True)
        (recordEnd fun now => f now row) w :=
    recordEnd_keeps apart (kept ▸ rowMem) late fun now job finished =>
      ⟨(sameRow now job finished).1, (sameRow now job finished).2.trans startedFor⟩
  apply (perform_keeps apart run node vars _).bind
  intro outcome w kept
  cases outcome with
  | returned result =>
      have finished := finishes (fun now job => job.succeed now result)
        (fun now job => Job.sameRow_of_finish fun _ => ⟨rfl, rfl⟩) kept
      apply finished.bind
      intro _ _ _ e
      simp
  | failed e =>
      have finished := finishes (fun now job => job.fail now e.message)
        (fun now job => Job.sameRow_of_finish fun _ => ⟨rfl, rfl⟩) kept
      apply finished.bind
      intro _ _ _ reason same
      cases same
      rfl
  | panicked message =>
      intro e
      simp

/-! ## The walk -/

section Terms

variable {S : Type} {answers : Answering service S} {terms : Terms S}

/-- What a walk has come to, when all of its parts keep some terms. -/
theorem inTurn_keeps {enter : Node → Bag → Routine Progress}
    (entered : ∀ node vars s, Keeps answers terms
      (fun progress _ => EndsAsWalk progress.2) (enter node vars) s)
    (nodes : List Node) (vars : Bag) (s : S) :
    Keeps answers terms (fun progress _ => EndsAsWalk progress.2)
      (inTurn enter nodes vars) s := by
  induction nodes generalizing vars s with
  | nil =>
      intro e
      simp
  | cons node rest ih =>
      rw [inTurn]
      by_cases closed : node.isClosed vars
      · rw [if_pos closed]
        exact ih vars s
      · rw [if_neg closed]
        apply (entered node vars s).bind
        intro progress t ends
        obtain ⟨gathered, _ | _⟩ := progress
        · exact ends
        · exact ih gathered t

variable {run : Run}

theorem visit_keeps
    (nodes : ∀ node vars s, Keeps answers terms (fun result _ => EndsAsWalk result)
      (run.runNode node vars) s)
    (graph : Graph) (levels : Nat) (path : List String) (node : Node) (vars : Bag) (s : S) :
    Keeps answers terms (fun progress _ => EndsAsWalk progress.2)
      (run.visit graph levels path node vars) s := by
  induction levels generalizing path node vars s with
  | zero =>
      intro e same
      cases same
      rfl
  | succ levels ih =>
      rw [visit]
      by_cases cycle : path.contains node.nodeId
      · rw [if_pos cycle]
        intro e same
        cases same
        rfl
      · rw [if_neg cycle]
        apply (nodes node vars s).bind
        intro result t ends
        cases result with
        | error e => exact fun reason same => ends reason (by simpa using same)
        | ok returned => exact inTurn_keeps (ih (node.nodeId :: path)) _ _ t

theorem visitRoots_keeps
    (nodes : ∀ node vars s, Keeps answers terms (fun result _ => EndsAsWalk result)
      (run.runNode node vars) s)
    (graph : Graph) (roots : List Node) (vars : Bag) (s : S) :
    Keeps answers terms (fun progress _ => EndsAsWalk progress.2)
      (run.visitRoots graph roots vars) s := by
  induction roots generalizing vars s with
  | nil =>
      intro e
      simp
  | cons root rest ih =>
      rw [visitRoots]
      apply (visit_keeps nodes graph _ [] root vars s).bind
      intro progress t ends
      obtain ⟨gathered, _ | _⟩ := progress
      · exact ends
      · exact ih gathered t

/-- A walk keeps the terms that its nodes keep, whatever it finds in the flow, if rows of
flows can be loaded within the terms. -/
theorem walk_keeps
    (nodes : ∀ node vars s, Keeps answers terms (fun result _ => EndsAsWalk result)
      (run.runNode node vars) s)
    (loadNodes : ∀ id t (rows : Except StoreError (List Node)) u, terms.valid t →
      answers t (ServiceCall.store (.listNodes id)) rows u →
      terms.guarantee t u ∧ ∃ loaded, rows = .ok loaded)
    (loadEdges : ∀ id t (rows : Except StoreError (List Edge)) u, terms.valid t →
      answers t (ServiceCall.store (.listEdges id)) rows u →
      terms.guarantee t u ∧ ∃ loaded, rows = .ok loaded)
    (flow : Flow) (triggerType : String) (vars : Bag) (s : S) :
    Keeps answers terms (fun progress _ => EndsAsWalk progress.2)
      (run.walk flow triggerType vars) s := by
  simp only [walk, Service.store_bind]
  intro t _ valid rows u answered
  obtain ⟨owed, loaded, rfl⟩ := loadNodes flow.id t rows u valid answered
  refine ⟨owed, ?_⟩
  intro v _ valid rows w answered
  obtain ⟨owed, edges, rfl⟩ := loadEdges flow.id v rows w valid answered
  refine ⟨owed, ?_⟩
  dsimp only
  split
  · intro e same
    cases same
    rfl
  · exact visitRoots_keeps nodes _ _ vars w

end Terms

/-- A walk keeps its terms beside others that leave the rows of its execution alone. -/
theorem walk_keeps_apart (apart : Apart id others) {run : Run}
    (under : run.executionId = id) (flow : Flow) (triggerType : String) (vars : Bag) (s : Shared) :
    Keeps answering (walkTerms id base others) (fun progress _ => EndsAsWalk progress.2)
      (run.walk flow triggerType vars) s := by
  refine walk_keeps (runNode_keeps apart under) ?_ ?_ flow triggerType vars s
  all_goals
    rintro flowId t _ _ _ ⟨_, rfl, rfl⟩
    exact ⟨walkTerms_guarantee_refl t, _, rfl⟩

end Run

end EventFlow
