import EventFlow.Proofs.Engine.Writes

/-!
# A run beside others under its id

A run that finds a row of its flow starts it anew, and one that finds none creates it,
unless another run does so first.  Then it writes the row once more, when it ends.  It
finds the row again that it needs at each of these questions, because rows are only
replaced by rows of the same origin.
-/

namespace EventFlow

open Program

variable {ι : Type} [DecidableEq ι] {id : ExecutionId} {request : ι → FlowRequest} {i : ι}
  {α : Type} {ensures : α → Written ι → Prop} {s : Written ι}

/-! ## Asking -/

/-- A question that writes nothing is within the terms of a run that is underway. -/
theorem keeps_ask_beside {q : ServiceCall} {next : q.Answer → Routine α}
    (beside : q.besideExecutions = true) (underway : ∀ row, s.lastBy i = some row → row.IsUnderway)
    (rest : ∀ t a u, OthersWrote i s u → u.notes = t.notes → Coherent id request t →
      Coherent id request u → t.state.Answers q a u.state →
      Keeps (writing i) (rivalTerms id request i) ensures (next a) u) :
    Keeps (writing i) (rivalTerms id request i) ensures (.ask (q : service.Question) next) s := by
  intro t others coherent a u answered
  rcases quietTerms_guarantee beside coherent answered with ⟨after, notes⟩
  refine ⟨⟨after, ?_, [], notes, by simp⟩, ?_⟩
  · rw [others.lastBy_eq]
    exact underway
  · exact rest t a u (others.trans (.of_notes_eq notes)) notes coherent after answered.1

theorem keeps_now {next : Instant → Routine α}
    (underway : ∀ row, s.lastBy i = some row → row.IsUnderway)
    (rest : ∀ now u, OthersWrote i s u →
      Keeps (writing i) (rivalTerms id request i) ensures (next now) u) :
    Keeps (writing i) (rivalTerms id request i) ensures
      (.ask (ServiceCall.now : service.Question) next) s :=
  keeps_ask_beside rfl underway fun _ now u others _ _ _ _ => rest now u others

/-- A run that looks for the row of its execution finds the one that was written last. -/
theorem keeps_lookUp {next : Except StoreError (Option Execution) → Routine α}
    (underway : ∀ row, s.lastBy i = some row → row.IsUnderway)
    (rest : ∀ u, OthersWrote i s u → Coherent id request u →
      Keeps (writing i) (rivalTerms id request i) ensures
        (next (.ok (u.notes.head?.map (·.2)))) u) :
    Keeps (writing i) (rivalTerms id request i) ensures
      (.ask (ServiceCall.store (.getExecution id) : service.Question) next) s := by
  apply keeps_ask_beside rfl underway
  rintro t _ u others notes coherent after ⟨now, rfl, _⟩
  simp only [Store.answer, coherent.stored, ← notes]
  exact rest u others after

/-- A run that replaces a row writes it, and the row stays of the origin that it had. -/
theorem keeps_replace {row : Execution} {next : Except StoreError Unit → Routine α}
    (underway : ∀ row, s.lastBy i = some row → row.IsUnderway)
    (writtenFor : row.WrittenFor id (request i))
    (origin : ∃ write ∈ s.notes, row.SameOrigin write.2)
    (rest : ∀ u, u.lastBy i = some row →
      Keeps (writing i) (rivalTerms id request i) ensures (next (.ok ())) u) :
    Keeps (writing i) (rivalTerms id request i) ensures
      (.ask (ServiceCall.store (.updateExecution row) : service.Question) next) s := by
  rintro t others coherent result u ⟨answered, notes⟩
  have wellFormed := answered.wellFormed coherent.wellFormed
  rcases origin with ⟨write, writeMem, sameOrigin⟩
  have writeMem := others.mem writeMem
  rcases coherent.exists_stored (List.ne_nil_of_mem writeMem) with ⟨old, _, present⟩
  rw [← writtenFor.executionId] at present
  rcases Store.updateExecution_of_present row 0 present with ⟨after, updated, stored, _⟩
  rcases answered with ⟨now, rfl, same⟩
  simp only [Store.answer, updated, Store.changed] at notes same ⊢
  have notes : u.notes = (i, row) :: t.notes := notes
  refine ⟨⟨?_, ?_, [(i, row)], notes, by simp⟩, rest u ?_⟩
  · refine coherent.write wellFormed ?_ notes writtenFor fun other otherMem =>
      sameOrigin.trans (coherent.origin write writeMem other otherMem)
    rw [same, ← writtenFor.executionId]
    exact stored
  · rw [others.lastBy_eq]
    exact underway
  · simp [Written.lastBy, notes]

/-- A run that creates the row writes the first one, unless another run has written. -/
theorem keeps_create {row : Execution} {next : Except StoreError Unit → Routine α}
    (unwritten : s.lastBy i = none) (writtenFor : row.WrittenFor id (request i))
    (created : ∀ u, u.lastBy i = some row →
      Keeps (writing i) (rivalTerms id request i) ensures (next (.ok ())) u)
    (refused : ∀ u e, e.isConflict = true → OthersWrote i s u → u.notes ≠ [] →
      Keeps (writing i) (rivalTerms id request i) ensures (next (.error e)) u) :
    Keeps (writing i) (rivalTerms id request i) ensures
      (.ask (ServiceCall.store (.createExecution row) : service.Question) next) s := by
  rintro t others coherent result u ⟨answered, notes⟩
  have wellFormed := answered.wellFormed coherent.wellFormed
  have underway : ∀ row, t.lastBy i = some row → row.IsUnderway := by
    simp [others.lastBy_eq, unwritten]
  rcases answered with ⟨now, rfl, same⟩
  cases found : t.state.store.getExecution row.executionId with
  | none =>
      rcases Store.createExecution_of_absent row 0 found with ⟨after, inserted, stored, _⟩
      simp only [Store.answer, inserted, Store.changed] at notes same ⊢
      have nothing : t.notes = [] := by
        have absent := coherent.stored
        rw [← writtenFor.executionId, found] at absent
        simpa using absent.symm
      have notes : u.notes = (i, row) :: t.notes := notes
      refine ⟨⟨?_, underway, [(i, row)], notes, by simp⟩, created u ?_⟩
      · refine coherent.write wellFormed ?_ notes writtenFor (by simp [nothing])
        rw [same, ← writtenFor.executionId]
        exact stored
      · simp [Written.lastBy, notes]
  | some old =>
      have conflict : t.state.store.createExecution row =
          .error (.conflict .execution row.executionId.text) := by
        simp [Store.createExecution, found]
      simp only [Store.answer, conflict, Store.changed] at notes same ⊢
      have notes : u.notes = t.notes := notes
      refine ⟨⟨coherent.of_same wellFormed (by rw [same]) notes, underway, [], notes, by simp⟩,
        refused u _ rfl (others.trans (.of_notes_eq notes)) ?_⟩
      intro nothing
      have present := coherent.stored
      rw [← writtenFor.executionId, found, ← notes, nothing] at present
      cases present

/-! ## Opening -/

/-- What opening the row comes to: the run has written it, or it has found it bound to
another flow. -/
def RivalOpens (id : ExecutionId) (request : ι → FlowRequest) (i : ι) :
    Except EngineError Execution → Written ι → Prop
  | .ok row, s => s.lastBy i = some row ∧ row.IsUnderway ∧ row.WrittenFor id (request i)
  | .error e, s => s.lastBy i = none ∧ ∃ write ∈ s.notes, write.2.flowId ≠ (request i).flowId ∧
      e = .boundToOtherFlow id write.2.flowId

theorem Execution.writtenFor_start {row : Execution} {request : FlowRequest}
    (executionId : row.executionId = id) (bound : row.flowId = request.flowId) (now : Instant) :
    (row.start now request.triggerType request.triggerId request.payload).WrittenFor id
      request where
  executionId := executionId
  carries := Execution.carries_start bound (by simp) now
  started := rfl

theorem reuse_keeps_rival {write : ι × Execution} (unwritten : s.lastBy i = none)
    (writeMem : write ∈ s.notes) (writtenFor : write.2.WrittenFor id (request write.1)) :
    Keeps (writing i) (rivalTerms id request i) (RivalOpens id request i)
      (Engine.reuse write.2 (request i)) s := by
  unfold Engine.reuse
  by_cases bound : write.2.flowId = (request i).flowId
  · simp only [bound, ne_eq, not_true_eq_false, if_false, Service.now_bind, Service.store_bind]
    apply keeps_now (by simp [unwritten])
    intro now t others
    have started := Execution.writtenFor_start writtenFor.executionId bound now
    apply keeps_replace (by simp [others.lastBy_eq, unwritten]) started
    · refine ⟨write, others.mem writeMem, rfl, rfl, ?_⟩
      -- A row that has been started keeps the time of its start.
      rcases Option.isSome_iff_exists.mp writtenFor.started with ⟨start, startedAt⟩
      simp [Execution.start, startedAt]
    · intro u last
      exact ⟨last, ⟨rfl, rfl⟩, started⟩
  · simp only [bound, ne_eq, not_false_eq_true, if_true]
    exact ⟨unwritten, write, writeMem, bound, by rw [writtenFor.executionId]⟩

theorem openExecution_keeps_rival (unwritten : s.lastBy i = none) :
    Keeps (writing i) (rivalTerms id request i) (RivalOpens id request i)
      (Engine.openExecution id (request i)) s := by
  simp only [Engine.openExecution, Service.now_bind, Service.store_bind]
  apply keeps_lookUp (by simp [unwritten])
  intro t others coherent
  have unwritten := others.lastBy_eq.trans unwritten
  cases written : t.notes with
  | cons write rest =>
      have writeMem : write ∈ t.notes := written ▸ List.mem_cons_self
      exact reuse_keeps_rival unwritten writeMem (coherent.writtenFor write writeMem)
  | nil =>
      apply keeps_now (by simp [unwritten])
      intro created u others
      have unwritten := others.lastBy_eq.trans unwritten
      apply keeps_now (by simp [unwritten])
      intro now v others
      have unwritten := others.lastBy_eq.trans unwritten
      have started : ((Execution.create created id (request i).flowId).start now
          (request i).triggerType (request i).triggerId (request i).payload).WrittenFor id
            (request i) := by
        apply Execution.writtenFor_start <;> rfl
      refine keeps_create unwritten started (fun w last => ⟨last, ⟨rfl, rfl⟩, started⟩) ?_
      intro w e conflict others written
      have unwritten := others.lastBy_eq.trans unwritten
      simp only [conflict, if_true, Engine.reuseConcurrent, Service.store_bind]
      apply keeps_lookUp (by simp [unwritten])
      intro x others coherent
      have unwritten := others.lastBy_eq.trans unwritten
      cases noted : x.notes with
      | cons write rest =>
          have writeMem : write ∈ x.notes := noted ▸ List.mem_cons_self
          exact reuse_keeps_rival unwritten writeMem (coherent.writtenFor write writeMem)
      | nil =>
          rcases List.exists_mem_of_ne_nil w.notes written with ⟨write, writeMem⟩
          have writeMem := others.mem writeMem
          simp [noted] at writeMem

/-! ## Closing -/

/-- How a run has ended: it was turned away and has written nothing, or the row that it
has written last tells its result. -/
inductive RivalEnded (id : ExecutionId) (request : ι → FlowRequest) (i : ι) (s : Written ι) :
    Except EngineError α → Prop where
  | noFlow (unwritten : s.lastBy i = none) :
      RivalEnded id request i s (.error (.flowNotFound (request i).flowId))
  | disabled (unwritten : s.lastBy i = none) :
      RivalEnded id request i s (.error (.flowDisabled (request i).flowId))
  | bound {write : ι × Execution} (unwritten : s.lastBy i = none) (writeMem : write ∈ s.notes)
      (foreign : write.2.flowId ≠ (request i).flowId) :
      RivalEnded id request i s (.error (.boundToOtherFlow id write.2.flowId))
  | wrote {row : Execution} {result : Except EngineError α} (last : s.lastBy i = some row)
      (tells : row.Tells result) (stored : ∀ e, result ≠ .error (.store e)) :
      RivalEnded id request i s result

namespace Execution.WrittenFor

variable {row : Execution} {request : FlowRequest}

theorem succeed (writtenFor : row.WrittenFor id request) (now : Instant) (vars : Bag) :
    (row.succeed now vars).WrittenFor id request where
  executionId := writtenFor.executionId
  carries :=
    have carries := writtenFor.carries
    ⟨carries.flowId, carries.triggerType, carries.triggerId, carries.payload, by simp, by simp⟩
  started := writtenFor.started

theorem fail (writtenFor : row.WrittenFor id request) (now : Instant) (error : String)
    (vars : Bag) : (row.fail now error vars).WrittenFor id request where
  executionId := writtenFor.executionId
  carries :=
    have carries := writtenFor.carries
    ⟨carries.flowId, carries.triggerType, carries.triggerId, carries.payload, by simp, by simp⟩
  started := writtenFor.started

end Execution.WrittenFor

theorem RivalEnded.map {β : Type} {result : Except EngineError α}
    (ended : RivalEnded id request i s result) (f : α → β) :
    RivalEnded id request i s (result.map f) := by
  cases ended with
  | noFlow unwritten => exact .noFlow unwritten
  | disabled unwritten => exact .disabled unwritten
  | bound unwritten writeMem foreign => exact .bound unwritten writeMem foreign
  | wrote last tells stored =>
      cases result with
      | ok value => exact .wrote last tells (by simp [Except.map])
      | error e =>
          refine .wrote last tells ?_
          intro reason same
          apply stored reason
          rw [Except.error.inj same]

/-- What others write does not change how a run has ended. -/
theorem RivalEnded.of_others {result : Except EngineError α} {t : Written ι}
    (ended : RivalEnded id request i s result) (others : OthersWrote i s t) :
    RivalEnded id request i t result := by
  cases ended with
  | noFlow unwritten => exact .noFlow (others.lastBy_eq.trans unwritten)
  | disabled unwritten => exact .disabled (others.lastBy_eq.trans unwritten)
  | bound unwritten writeMem foreign =>
      exact .bound (others.lastBy_eq.trans unwritten) (others.mem writeMem) foreign
  | wrote last tells stored => exact .wrote (others.lastBy_eq.trans last) tells stored

theorem EngineError.ne_store_of_isOfWalk {e : EngineError} (ofWalk : e.isOfWalk = true)
    (reason : StoreError) : e ≠ .store reason := by
  rintro rfl
  contradiction

theorem finish_keeps_rival {row : Execution} {progress : Run.Progress}
    (last : s.lastBy i = some row) (underway : row.IsUnderway)
    (writtenFor : row.WrittenFor id (request i)) (ends : EndsAsWalk progress.2) :
    Keeps (writing i) (rivalTerms id request i) (fun result s => RivalEnded id request i s result)
      (Engine.finish row progress) s := by
  have closes (final : Instant → Execution)
      {next : Instant → Except StoreError Unit → Routine (Except EngineError Unit)}
      (writtenForToo : ∀ now, (final now).WrittenFor id (request i))
      (origin : ∀ now, (final now).SameOrigin row)
      (rest : ∀ now u, u.lastBy i = some (final now) →
        Keeps (writing i) (rivalTerms id request i)
          (fun result s => RivalEnded id request i s result) (next now (.ok ())) u) :
      Keeps (writing i) (rivalTerms id request i)
        (fun result s => RivalEnded id request i s result)
        (.ask (ServiceCall.now : service.Question) fun now =>
          .ask (ServiceCall.store (.updateExecution (final now)) : service.Question)
            (next now)) s := by
    have stillUnderway : ∀ other, s.lastBy i = some other → other.IsUnderway := by
      rw [last]
      rintro _ ⟨⟩
      exact underway
    apply keeps_now stillUnderway
    intro now t others
    exact keeps_replace (by rw [others.lastBy_eq]; exact stillUnderway) (writtenForToo now)
      ⟨(i, row), others.mem (Written.mem_of_lastBy last), origin now⟩ (rest now)
  obtain ⟨vars, outcome⟩ := progress
  match outcome with
  | .ok () =>
      simp only [Engine.finish, Engine.close, Service.now_bind, Service.store_bind]
      exact closes (row.succeed · vars) (fun now => writtenFor.succeed now vars)
        (fun _ => ⟨rfl, rfl, rfl⟩) fun now u last =>
          .wrote last ⟨rfl, underway.2, rfl⟩ (by simp)
  | .error (.failed e) =>
      simp only [Engine.finish, Engine.close, Service.now_bind, Service.store_bind]
      have ofWalk := ends e rfl
      apply closes (row.fail · e.message vars) (fun now => writtenFor.fail now e.message vars)
        (fun _ => ⟨rfl, rfl, rfl⟩)
      intro now u last
      apply RivalEnded.wrote last
      · refine ⟨rfl, ?_, rfl⟩
        rw [(EngineError.isRejection_of_isOfWalk ofWalk).2]
        rfl
      · intro reason same
        exact EngineError.ne_store_of_isOfWalk ofWalk reason (Except.error.inj same)
  | .error (.panicked message) =>
      simp only [Engine.finish, Service.now_bind, Service.store_bind]
      exact closes (row.fail · ("panic: " ++ message) row.vars)
        (fun now => writtenFor.fail now _ row.vars) (fun _ => ⟨rfl, rfl, rfl⟩) fun now u last =>
          .wrote last ⟨rfl, rfl, rfl⟩ (by simp)

/-! ## Running -/

omit [DecidableEq ι] in
/-- A node is run without a write, whatever others do meanwhile. -/
theorem Run.runNode_keeps_quiet (run : Run) (node : Node) (vars : Bag) (s : Written ι) :
    Keeps (writing i) (quietTerms id request i) (fun result _ => EndsAsWalk result)
      (run.runNode node vars) s := by
  have allowed (t : Written ι) (q : ServiceCall) (a : q.Answer) (u : Written ι)
      (ofVisit : q.ofVisit = true) (coherent : Coherent id request t)
      (answered : writing i t q a u) : (quietTerms id request i).guarantee t u :=
    quietTerms_guarantee (ServiceCall.besideExecutions_of_ofVisit ofVisit) coherent answered
  have quiet {β : Type} {p : Routine β} (asks : AsksOfVisit p) (t : Written ι) :
      Keeps (writing i) (quietTerms id request i) (fun _ _ => True) p t :=
    Keeps.of_asks asks allowed t
  simp only [runNode, Service.now_bind, Service.store_bind]
  intro t _ coherent now u answered
  refine ⟨allowed t .now now u rfl coherent answered, ?_⟩
  intro v _ coherent created w answered
  refine ⟨allowed v (.store (.createJob _)) created w rfl coherent answered, ?_⟩
  apply (quiet (perform_asks run node vars) w).bind
  intro outcome x _
  cases outcome with
  | returned result =>
      cases created with
      | ok job =>
          apply (quiet (recordEnd_asks fun now => job.succeed now result) x).bind
          intro _ _ _ e
          simp
      | error reason =>
          intro e
          simp
  | failed reason =>
      have fails : EndsAsWalk (α := Bag) (.error (.failed (.nodeFailed node.nodeId reason))) := by
        rintro _ ⟨⟩
        rfl
      cases created with
      | ok job =>
          apply (quiet (recordEnd_asks fun now => job.fail now reason.message) x).bind
          intro _ _ _
          exact fails
      | error _ => exact fails
  | panicked message =>
      intro e
      simp

/-- While a flow is walked the run writes nothing, and its row stays the last one that it
has written. -/
theorem walk_keeps_rival {row : Execution} (last : s.lastBy i = some row)
    (underway : row.IsUnderway) (run : Run) (flow : Flow) (triggerType : String) (vars : Bag) :
    Keeps (writing i) (rivalTerms id request i)
      (fun progress t => EndsAsWalk progress.2 ∧ t.lastBy i = some row)
      (run.walk flow triggerType vars) s := by
  have walked : Keeps (writing i) (quietTerms id request i)
      (fun progress _ => EndsAsWalk progress.2) (run.walk flow triggerType vars) s := by
    apply Run.walk_keeps (Run.runNode_keeps_quiet run)
    all_goals
      intro flowId t rows u coherent answered
      constructor
      · exact quietTerms_guarantee rfl coherent answered
      · rcases answered.1 with ⟨now, rfl, _⟩
        exact ⟨_, rfl⟩
  have throughout := walked.throughout (fun t => t.lastBy i = some row)
    (fun t u others last => others.lastBy_eq.trans last)
    (fun t u quiet last => (OthersWrote.of_notes_eq quiet.2).lastBy_eq.trans last) last
  apply throughout.weaken (rivalTerms id request i) (fun _ valid => valid)
    (fun _ _ others => others)
  rintro t u ⟨⟨coherent, notes⟩, last⟩
  refine ⟨coherent, ?_, [], notes, by simp⟩
  rw [last]
  rintro _ ⟨⟩
  exact underway

/-- An enabled flow is run within the terms, and the run ends as a rival. -/
theorem runFlow_keeps_rival (engine : Engine) (flow : Flow) (unwritten : s.lastBy i = none) :
    Keeps (writing i) (rivalTerms id request i) (fun result s => RivalEnded id request i s result)
      (engine.runFlow flow id (request i)) s := by
  unfold Engine.runFlow
  apply (openExecution_keeps_rival unwritten).bind
  intro opened t opens
  cases opened with
  | error e =>
      rcases opens with ⟨unwritten, write, writeMem, foreign, rfl⟩
      exact .bound unwritten writeMem foreign
  | ok row =>
      rcases opens with ⟨last, underway, writtenFor⟩
      apply (walk_keeps_rival last underway _ flow _ _).bind
      rintro progress u ⟨ends, last⟩
      exact finish_keeps_rival last underway writtenFor ends

/-- A run under the id keeps its terms whatever the others write, and ends as a rival. -/
theorem executeUnder_keeps_rival (engine : Engine) (unwritten : s.lastBy i = none) :
    Keeps (writing i) (rivalTerms id request i) (fun result s => RivalEnded id request i s result)
      (engine.executeUnder id (request i)) s := by
  simp only [Engine.executeUnder, Service.store_bind]
  apply keeps_ask_beside rfl (by simp [unwritten])
  rintro before _ t others _ _ _ ⟨now, rfl, _⟩
  have unwritten := others.lastBy_eq.trans unwritten
  simp only [Store.answer]
  cases before.state.store.getFlow (request i).flowId with
  | none => exact .noFlow unwritten
  | some flow =>
      by_cases enabled : flow.enabled
      · simp only [enabled, if_true]
        apply (runFlow_keeps_rival engine flow unwritten).bind
        intro result u ended
        cases result with
        | ok value => exact ended.map fun _ => id
        | error e => exact ended.map fun _ => id
      · simp only [enabled]
        exact .disabled unwritten

end EventFlow
