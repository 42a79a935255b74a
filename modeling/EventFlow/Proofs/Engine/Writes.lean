import EventFlow.Proofs.Engine.Execution
import EventFlow.Proofs.Engine.Questions
import EventFlow.Proofs.Notes

/-!
# The writes of runs under one id

Several runs may have the same id, and each of them may write the row of the execution
between any two questions of another.  Every write is noted together with the run that
has made it, the latest first.  So the row that is stored is the one that was noted
last.  All rows that are written come from the one that was written first: they have
the flow and the times of its creation and its start.
-/

namespace EventFlow

open Program

/-! ## Writes -/

/-- The row of an execution that a question has written when it is answered. -/
def ServiceCall.written? : (q : ServiceCall) → q.Answer → Option Execution
  | .store (.createExecution row), result => (Except.toOption result).map fun _ => row
  | .store (.updateExecution row), result => (Except.toOption result).map fun _ => row
  | _, _ => none

theorem ServiceCall.written?_of_besideExecutions {q : ServiceCall}
    (beside : q.besideExecutions = true) (a : q.Answer) : q.written? a = none := by
  cases q with
  | store call =>
      cases call with
      | createExecution | updateExecution => contradiction
      | _ => rfl
  | _ => rfl

/-- Tables, and the rows of executions that have been written, each by one of several
runs, the latest first. -/
abbrev Written (ι : Type) : Type := Noted Shared (List (ι × Execution))

/-- The answers that tables give to a run while writes are noted. -/
abbrev writing {ι : Type} (i : ι) : Answering service (Written ι) :=
  Shared.answering.noting fun q a before after =>
    after = (ServiceCall.written? q a).toList.map (i, ·) ++ before

/-- An answer to every question of a run, while writes are noted. -/
def writeAt {ι : Type} (now : Instant) (i : ι) (s : Written ι) (q : ServiceCall) :
    q.Answer × Written ι :=
  ((s.state.answerAt now q).1, ⟨(s.state.answerAt now q).2,
    (q.written? (s.state.answerAt now q).1).toList.map (i, ·) ++ s.notes⟩)

theorem writing_writeAt {ι : Type} (now : Instant) (i : ι) (s : Written ι) (q : ServiceCall) :
    writing i s q (writeAt now i s q).1 (writeAt now i s q).2 :=
  ⟨s.state.answers_answerAt now q, rfl⟩

/-- The row that a run has written last. -/
def Written.lastBy {ι : Type} [DecidableEq ι] (s : Written ι) (i : ι) : Option Execution :=
  (s.notes.find? fun write => write.1 = i).map (·.2)

/-- Both are rows of one execution: of one flow, created and started at the same times. -/
structure Execution.SameOrigin (row other : Execution) : Prop where
  flowId : row.flowId = other.flowId
  createdAt : row.createdAt = other.createdAt
  startedAt : row.startedAt = other.startedAt

theorem Execution.SameOrigin.trans {row other third : Execution} (first : row.SameOrigin other)
    (second : other.SameOrigin third) : row.SameOrigin third :=
  ⟨first.flowId.trans second.flowId, first.createdAt.trans second.createdAt,
    first.startedAt.trans second.startedAt⟩

theorem Execution.SameOrigin.symm {row other : Execution} (same : row.SameOrigin other) :
    other.SameOrigin row :=
  ⟨same.flowId.symm, same.createdAt.symm, same.startedAt.symm⟩

/-- The row is one that a run may write for a request: it belongs to the execution, it
carries the request, and it has been started. -/
structure Execution.WrittenFor (id : ExecutionId) (request : FlowRequest) (row : Execution) :
    Prop where
  executionId : row.executionId = id
  carries : row.Carries request none
  started : row.startedAt.isSome = true

variable {ι : Type} {id : ExecutionId} {request : ι → FlowRequest}

/-- The row that is stored under an id is the one that was written last, every row was
written for the request of its run, and all rows have one origin. -/
structure Coherent (id : ExecutionId) (request : ι → FlowRequest) (s : Written ι) : Prop where
  wellFormed : s.state.store.WellFormed
  stored : s.state.store.getExecution id = s.notes.head?.map (·.2)
  writtenFor : ∀ write ∈ s.notes, write.2.WrittenFor id (request write.1)
  origin : ∀ write ∈ s.notes, ∀ other ∈ s.notes, write.2.SameOrigin other.2

namespace Coherent

variable {s t : Written ι} {i : ι} {row : Execution}

/-- The row and the writes stay coherent when neither changes. -/
theorem of_same (coherent : Coherent id request s) (wellFormed : t.state.store.WellFormed)
    (row : t.state.store.getExecution id = s.state.store.getExecution id)
    (notes : t.notes = s.notes) : Coherent id request t where
  wellFormed := wellFormed
  stored := by
    rw [row, notes]
    exact coherent.stored
  writtenFor := by
    rw [notes]
    exact coherent.writtenFor
  origin := by
    rw [notes]
    exact coherent.origin

/-- A further row of the origin is written. -/
theorem write (coherent : Coherent id request s) (wellFormed : t.state.store.WellFormed)
    (stored : t.state.store.getExecution id = some row) (notes : t.notes = (i, row) :: s.notes)
    (writtenFor : row.WrittenFor id (request i))
    (origin : ∀ write ∈ s.notes, row.SameOrigin write.2) : Coherent id request t where
  wellFormed := wellFormed
  stored := by
    rw [notes]
    exact stored
  writtenFor := by
    rw [notes]
    exact List.forall_mem_cons.mpr ⟨writtenFor, coherent.writtenFor⟩
  origin := by
    rw [notes]
    intro write writeMem other otherMem
    rcases List.mem_cons.mp writeMem with rfl | writeMem
    · rcases List.mem_cons.mp otherMem with rfl | otherMem
      · exact ⟨rfl, rfl, rfl⟩
      · exact origin other otherMem
    · rcases List.mem_cons.mp otherMem with rfl | otherMem
      · exact (origin write writeMem).symm
      · exact coherent.origin write writeMem other otherMem

/-- If something has been written, a row is stored. -/
theorem exists_stored (coherent : Coherent id request s) (written : s.notes ≠ []) :
    ∃ write ∈ s.notes, s.state.store.getExecution id = some write.2 := by
  rw [coherent.stored]
  cases notes : s.notes with
  | nil => exact absurd notes written
  | cons write rest => exact ⟨write, List.mem_cons_self, rfl⟩

end Coherent

/-! ## Terms -/

/-- The row is as a run leaves it that has not ended. -/
def Execution.IsUnderway (row : Execution) : Prop :=
  row.state = .running ∧ row.error = none

/-- The row tells the result of a run. -/
def Execution.Tells {α : Type} (row : Execution) : Except EngineError α → Prop
  | .ok _ => row.state = .succeeded ∧ row.error = none ∧ row.finishedAt.isSome = true
  | .error e => row.state = .failed ∧ row.error = some e.recorded ∧ row.finishedAt.isSome = true

/-- Only others than a run have written between two states. -/
def OthersWrote (i : ι) (s t : Written ι) : Prop :=
  ∃ more, t.notes = more ++ s.notes ∧ ∀ write ∈ more, write.1 ≠ i

namespace OthersWrote

variable {i : ι} {s t u : Written ι}

theorem of_notes_eq (same : t.notes = s.notes) : OthersWrote i s t :=
  ⟨[], same, by simp⟩

theorem trans (first : OthersWrote i s t) (second : OthersWrote i t u) : OthersWrote i s u := by
  rcases first with ⟨earlier, notes, foreignEarlier⟩
  rcases second with ⟨later, laterNotes, foreignLater⟩
  refine ⟨later ++ earlier, by rw [laterNotes, notes, List.append_assoc], ?_⟩
  intro write writeMem
  rcases List.mem_append.mp writeMem with writeMem | writeMem
  · exact foreignLater write writeMem
  · exact foreignEarlier write writeMem

theorem mem (others : OthersWrote i s t) {write : ι × Execution} (writeMem : write ∈ s.notes) :
    write ∈ t.notes := by
  rcases others with ⟨more, notes, _⟩
  rw [notes]
  exact List.mem_append_right more writeMem

theorem lastBy_eq [DecidableEq ι] (others : OthersWrote i s t) : t.lastBy i = s.lastBy i := by
  rcases others with ⟨more, notes, foreign⟩
  have none : more.find? (fun write => write.1 = i) = none :=
    List.find?_eq_none.mpr fun write writeMem => by simpa using foreign write writeMem
  simp [Written.lastBy, notes, List.find?_append, none]

end OthersWrote

theorem Written.mem_of_lastBy [DecidableEq ι] {s : Written ι} {i : ι} {row : Execution}
    (last : s.lastBy i = some row) : (i, row) ∈ s.notes := by
  rcases Option.map_eq_some_iff.mp last with ⟨⟨j, other⟩, found, rfl⟩
  obtain rfl : j = i := by simpa using List.find?_some found
  exact List.mem_of_find?_eq_some found

/-- The terms of a run among others under its id: it finds the writes coherent and leaves
them so, only the others write between two of its questions, and its own row stays
underway as long as it has something to ask. -/
def rivalTerms [DecidableEq ι] (id : ExecutionId) (request : ι → FlowRequest) (i : ι) :
    Terms (Written ι) where
  valid := Coherent id request
  rely := OthersWrote i
  guarantee s t := Coherent id request t ∧ (∀ row, s.lastBy i = some row → row.IsUnderway) ∧
    ∃ more, t.notes = more ++ s.notes ∧ ∀ write ∈ more, write.1 = i

/-- The terms of a part of a run that writes nothing. -/
def quietTerms (id : ExecutionId) (request : ι → FlowRequest) (i : ι) : Terms (Written ι) where
  valid := Coherent id request
  rely := OthersWrote i
  guarantee s t := Coherent id request t ∧ t.notes = s.notes

theorem quietTerms_guarantee {i : ι} {q : ServiceCall} (beside : q.besideExecutions = true)
    {s t : Written ι} {a : q.Answer} (coherent : Coherent id request s)
    (answered : writing i s q a t) : (quietTerms id request i).guarantee s t := by
  have notes : t.notes = s.notes := by
    simpa [ServiceCall.written?_of_besideExecutions beside a] using answered.2
  have row : t.state.store.getExecution id = s.state.store.getExecution id := by
    rw [Store.getExecution, answered.1.executions_eq beside, Store.getExecution]
  exact ⟨coherent.of_same (answered.1.wellFormed coherent.wellFormed) row notes, notes⟩

end EventFlow
