import EventFlow.Proofs.Engine.Alone
import EventFlow.Proofs.Engine.Rival
import Mathlib.Logic.Function.Basic
import Mathlib.Logic.Relation

/-!
# Runs that contend for one id

Any number of runs have the same id and go on in any order, one question at a time;
between them others use the store, but leave the row of the execution alone.  There is
no more than one row, all of it was written by one run, and it keeps the flow and the
times with which it was created.
-/

namespace EventFlow

open Program

/-! ## Systems of runs -/

/-- Runs under one id: the tables, what each run has left to do, and the rows of the
execution that have been written, the latest first. -/
structure Contention (ι : Type) where
  tables : Shared
  runs : ι → Routine (Except EngineError ExecutionId)
  writes : List (ι × Execution)

namespace Contention

variable {ι : Type}

/-- The tables with what has been written. -/
def written (s : Contention ι) : Written ι := ⟨s.tables, s.writes⟩

/-- In the beginning there is no row under the id, and every run has a request. -/
structure Initial (engine : ι → Engine) (id : ExecutionId) (request : ι → FlowRequest)
    (s : Contention ι) : Prop where
  store : s.tables.store.Reachable
  absent : s.tables.store.getExecution id = none
  runs : ∀ i, s.runs i = (engine i).execute (some id) (request i)
  writes : s.writes = []

variable [DecidableEq ι]

/-- One run asks a question, or others use the store and leave the row alone. -/
inductive Step (id : ExecutionId) : Contention ι → Contention ι → Prop where
  | run {s : Contention ι} (i : ι) {q : ServiceCall}
      {next : q.Answer → Routine (Except EngineError ExecutionId)} {a : q.Answer}
      {tables : Shared} (asks : s.runs i = .ask (q : service.Question) next)
      (answered : s.tables.Answers q a tables) :
      Step id s
        { tables
          runs := Function.update s.runs i (next a)
          writes := (q.written? a).toList.map (i, ·) ++ s.writes }
  | others {s : Contention ι} (now : Instant) (call : StoreCall)
      (same : (s.tables.store.answer now call).2.getExecution id =
        s.tables.store.getExecution id) :
      Step id s
        { s with tables := { s.tables with store := (s.tables.store.answer now call).2 } }

/-- The states that runs come to. -/
inductive Reachable (engine : ι → Engine) (id : ExecutionId) (request : ι → FlowRequest) :
    Contention ι → Prop where
  | initial {s : Contention ι} (initial : Initial engine id request s) :
      Reachable engine id request s
  | step {s t : Contention ι} (reachable : Reachable engine id request s) (step : Step id s t) :
      Reachable engine id request t

/-- A state may come to another one in any number of steps. -/
abbrev Later (id : ExecutionId) : Contention ι → Contention ι → Prop :=
  Relation.ReflTransGen (Step id)

variable {engine : ι → Engine} {id : ExecutionId} {request : ι → FlowRequest}
  {s t : Contention ι}

/-- The writes are coherent, and every run keeps its terms. -/
structure Sound (id : ExecutionId) (request : ι → FlowRequest) (s : Contention ι) : Prop where
  coherent : Coherent id request s.written
  keeps : ∀ i, Keeps (writing i) (rivalTerms id request i)
    (fun result t => RivalEnded id request i t result) (s.runs i) s.written

theorem Initial.sound (initial : Initial engine id request s) (named : id.isBlank = false) :
    Sound id request s where
  coherent := by
    refine ⟨initial.store.wellFormed, ?_, ?_, ?_⟩ <;> simp [written, initial.writes, initial.absent]
  keeps i := by
    rw [initial.runs i, Engine.execute_of_given _ _ named]
    exact executeUnder_keeps_rival (engine i) (by simp [Written.lastBy, written, initial.writes])

/-- What one run does leaves the others within their terms. -/
theorem Sound.step (sound : Sound id request s) (step : Step id s t) : Sound id request t := by
  have stays (i : ι) {u : Written ι} (others : OthersWrote i s.written u) :
      Keeps (writing i) (rivalTerms id request i)
        (fun result t => RivalEnded id request i t result) (s.runs i) u :=
    (sound.keeps i).after OthersWrote.trans (fun _ _ _ others ended => ended.of_others others)
      others
  cases step with
  | @run i q next a tables asks answered =>
      have kept := sound.keeps i
      rw [asks] at kept
      rcases kept s.written (.of_notes_eq rfl) sound.coherent a ⟨tables, _⟩ ⟨answered, rfl⟩
        with ⟨⟨coherent, _, more, notes, own⟩, after⟩
      constructor
      · exact coherent
      · intro j
        by_cases same : j = i
        · subst same
          simp only [Function.update_self]
          exact after
        · simp only [Function.update_of_ne same]
          exact stays j ⟨more, notes, fun write writeMem byOther =>
            same (byOther.symm.trans (own write writeMem))⟩
  | others now call same =>
      have wellFormed := sound.coherent.wellFormed.answer now call
      exact ⟨sound.coherent.of_same wellFormed same rfl, fun i => stays i (.of_notes_eq rfl)⟩

theorem Reachable.sound (reachable : Reachable engine id request s) (named : id.isBlank = false) :
    Sound id request s := by
  induction reachable with
  | initial initial => exact initial.sound named
  | step _ step ih => exact ih.step step

theorem Reachable.later (reachable : Reachable engine id request s) (later : Later id s t) :
    Reachable engine id request t := by
  induction later with
  | refl => exact reachable
  | tail _ step ih => exact .step ih step

/-- A run may go on to its end while all others wait. -/
theorem later_of_runs {i : ι} {before after : Written ι} {result : Except EngineError ExecutionId}
    {p : Routine (Except EngineError ExecutionId)} (ran : Runs (writing i) p before result after)
    (written : s.written = before) (stands : s.runs i = p) :
    Later id s ⟨after.state, Function.update s.runs i (.done result), after.notes⟩ := by
  induction ran generalizing s with
  | done value t =>
      subst written
      rw [← stands, Function.update_eq_self]
      exact .refl
  | @ask q next _ t _ a _ answered _ ih =>
      subst written
      have rest := ih (s := ⟨t.state, Function.update s.runs i (next a), t.notes⟩) rfl (by simp)
      rw [Function.update_idem] at rest
      refine .head ?_ rest
      have notes : t.notes = _ := answered.2
      rw [notes]
      exact .run i stands answered.1

/-- Rows are only written on top of those that have been written. -/
theorem writes_suffix_of_later (later : Later id s t) : s.writes <:+ t.writes := by
  induction later with
  | refl => exact List.suffix_refl _
  | tail _ step ih =>
      cases step with
      | run i asks answered => exact ih.trans (List.suffix_append _ _)
      | others => exact ih

/-! ## What a sound state tells -/

/-- The last row of a run that still has something to ask is underway. -/
theorem Sound.underway (sound : Sound id request s) {i : ι} {q : service.Question}
    {next : service.Answer q → Routine (Except EngineError ExecutionId)}
    (asks : s.runs i = .ask q next) {row : Execution} (last : s.written.lastBy i = some row) :
    row.IsUnderway := by
  have kept := sound.keeps i
  rw [asks] at kept
  rcases s.tables.exists_answers q with ⟨a, tables, answered⟩
  rcases kept s.written (.of_notes_eq rfl) sound.coherent a ⟨tables, _⟩ ⟨answered, rfl⟩
    with ⟨⟨_, underway, _⟩, _⟩
  exact underway row last

theorem Sound.ended (sound : Sound id request s) {i : ι}
    {result : Except EngineError ExecutionId} (done : s.runs i = .done result) :
    RivalEnded id request i s.written result := by
  have kept := sound.keeps i
  rw [done] at kept
  exact kept

/-- The row stands as a run does: it is underway while the run has something to ask, and
then tells the result of the run. -/
def Stands (row : Execution) : Routine (Except EngineError ExecutionId) → Prop
  | .done result => row.Tells result
  | .ask _ _ => row.IsUnderway

theorem Sound.stands (sound : Sound id request s) {i : ι} {row : Execution}
    (last : s.written.lastBy i = some row) : Stands row (s.runs i) := by
  cases run : s.runs i with
  | ask q next => exact sound.underway run last
  | done result =>
      cases sound.ended run with
      | noFlow unwritten => simp [last] at unwritten
      | disabled unwritten => simp [last] at unwritten
      | bound unwritten => simp [last] at unwritten
      | wrote other tells =>
          obtain rfl := Option.some.inj (last.symm.trans other)
          exact tells

/-- The row that is stored was written last, by the run whose last write it is. -/
theorem Sound.exists_writer (sound : Sound id request s) {row : Execution}
    (stored : s.tables.store.getExecution id = some row) :
    ∃ i earlier, s.writes = (i, row) :: earlier ∧ s.written.lastBy i = some row := by
  have head := sound.coherent.stored.symm.trans stored
  cases writes : s.writes with
  | nil => simp [written, writes] at head
  | cons write earlier =>
      rcases write with ⟨i, other⟩
      obtain rfl : other = row := by simpa [written, writes] using head
      exact ⟨i, earlier, rfl, by simp [Written.lastBy, written, writes]⟩

/-- What holds of the row for which runs contend.  It keeps its flow and the times of its
creation and its start; all of it was written by one run and stands as this run does; and
runs for other flows write nothing and end by being turned away. -/
structure Settles (id : ExecutionId) (request : ι → FlowRequest) (s : Contention ι)
    (row : Execution) : Prop where
  keepsOrigin : ∀ t, Later id s t → ∃ later, t.tables.store.getExecution id = some later ∧
    later.SameOrigin row
  writer : ∃ i earlier, s.writes = (i, row) :: earlier ∧ row.Carries (request i) none ∧
    Stands row (s.runs i)
  foreign : ∀ i, (request i).flowId ≠ row.flowId → (∀ write ∈ s.writes, write.1 ≠ i) ∧
    ∀ result, s.runs i = .done result →
      result = .error (.boundToOtherFlow id row.flowId) ∨
        result = .error (.flowNotFound (request i).flowId) ∨
        result = .error (.flowDisabled (request i).flowId)

theorem Reachable.settles (reachable : Reachable engine id request s) (named : id.isBlank = false)
    {row : Execution} (stored : s.tables.store.getExecution id = some row) :
    Settles id request s row := by
  have sound := reachable.sound named
  rcases sound.exists_writer stored with ⟨i, earlier, writes, last⟩
  have rowMem : (i, row) ∈ s.writes := writes ▸ List.mem_cons_self
  have carries := (sound.coherent.writtenFor _ rowMem).carries
  constructor
  · intro t later
    have soundLater := (reachable.later later).sound named
    have stillMem : (i, row) ∈ t.writes := (writes_suffix_of_later later).subset rowMem
    rcases soundLater.coherent.exists_stored (List.ne_nil_of_mem stillMem)
      with ⟨write, writeMem, present⟩
    exact ⟨write.2, present, soundLater.coherent.origin write writeMem _ stillMem⟩
  · exact ⟨i, earlier, writes, carries, sound.stands last⟩
  · intro j foreign
    have unwritten : ∀ write ∈ s.writes, write.1 ≠ j := by
      rintro write writeMem rfl
      have bound := (sound.coherent.writtenFor _ writeMem).carries.flowId
      exact foreign (bound.symm.trans (sound.coherent.origin write writeMem _ rowMem).flowId)
    refine ⟨unwritten, ?_⟩
    intro result done
    cases sound.ended done with
    | noFlow => exact .inr (.inl rfl)
    | disabled => exact .inr (.inr rfl)
    | bound _ writeMem _ =>
        rw [(sound.coherent.origin _ writeMem _ rowMem).flowId]
        exact .inl rfl
    | wrote last => exact absurd rfl (unwritten _ (Written.mem_of_lastBy last))

/-- Runs that contend for an id agree on its row, in every order of their steps.  There is
one row at the most, and it settles; no run fails because of the store; and when all runs
have ended, the row tells how the last writer has ended, and it is there unless every run
was turned away because of its flow. -/
theorem Reachable.contenders_agree (reachable : Reachable engine id request s)
    (named : id.isBlank = false) :
    (s.tables.store.executions.filter fun row => row.executionId == id).length ≤ 1 ∧
    (∀ row, s.tables.store.getExecution id = some row → Settles id request s row) ∧
    (∀ i reason, s.runs i ≠ .done (.error (.store reason))) ∧
    ((∀ i, ∃ result, s.runs i = .done result) →
      (∀ row, s.tables.store.getExecution id = some row → row.state.isTerminal = true ∧
        ∃ i earlier result, s.writes = (i, row) :: earlier ∧ s.runs i = .done result ∧
          row.Tells result) ∧
      ∀ i result, s.runs i = .done result → result ≠ .error (.flowNotFound (request i).flowId) →
        result ≠ .error (.flowDisabled (request i).flowId) →
        ∃ row, s.tables.store.getExecution id = some row) := by
  have sound := reachable.sound named
  refine ⟨?_, fun row stored => reachable.settles named stored, ?_, fun ended => ⟨?_, ?_⟩⟩
  · exact sound.coherent.wellFormed.length_filter_executionId_le id
  · intro i reason done
    cases sound.ended done with
    | wrote _ _ stored => exact stored reason rfl
  · intro row stored
    rcases sound.exists_writer stored with ⟨i, earlier, writes, last⟩
    rcases ended i with ⟨result, done⟩
    have tells := sound.stands last
    rw [done] at tells
    refine ⟨?_, i, earlier, result, writes, done, tells⟩
    cases result with
    | ok value => rw [tells.1]; rfl
    | error e => rw [tells.1]; rfl
  · intro i result done found enabled
    have written : s.writes ≠ [] := by
      cases sound.ended done with
      | noFlow => exact absurd rfl found
      | disabled => exact absurd rfl enabled
      | bound _ writeMem _ => exact List.ne_nil_of_mem writeMem
      | wrote last => exact List.ne_nil_of_mem (Written.mem_of_lastBy last)
    rcases sound.coherent.exists_stored written with ⟨write, _, present⟩
    exact ⟨write.2, present⟩

/-- Two runs for one flow that have not begun, and an id that no execution has. -/
def twins : Contention Bool where
  tables := ⟨Engine.greetingStore, .empty⟩
  runs i := (Engine.create Bot.Dev.registry .default).execute (some ⟨"twins"⟩)
    ⟨⟨1⟩, "dev|ping", if i then "first" else "second", []⟩
  writes := []

/-- The first of them goes on to its end. -/
def twinsFirst : Except EngineError ExecutionId × Written Bool :=
  (twins.runs true).run (writeAt (.ofMilliseconds 7) true) twins.written

/-- Then the second one does. -/
def twinsSecond : Except EngineError ExecutionId × Written Bool :=
  (twins.runs false).run (writeAt (.ofMilliseconds 9) false) twinsFirst.2

/-- Both have ended. -/
def twinsEnd : Contention Bool :=
  ⟨twinsSecond.2.state, fun _ => .done (.ok ⟨"twins"⟩), twinsSecond.2.notes⟩

theorem twins_later : Later ⟨"twins"⟩ twins twinsEnd := by
  have ranFirst : Runs (writing true) _ _ twinsFirst.1 twinsFirst.2 :=
    runs_run (writing_writeAt _ _) _ _
  have ranSecond : Runs (writing false) _ _ twinsSecond.1 twinsSecond.2 :=
    runs_run (writing_writeAt _ _) _ _
  have first : twinsFirst.1 = .ok ⟨"twins"⟩ := by decide +kernel
  have second : twinsSecond.1 = .ok ⟨"twins"⟩ := by decide +kernel
  rw [first] at ranFirst
  rw [second] at ranSecond
  have laterFirst : Later ⟨"twins"⟩ twins _ := later_of_runs ranFirst rfl rfl
  have waits : Function.update twins.runs true (.done (.ok ⟨"twins"⟩)) false = twins.runs false :=
    Function.update_of_ne (by simp) _ _
  have both : Function.update (Function.update twins.runs true (.done (.ok ⟨"twins"⟩))) false
      (.done (.ok ⟨"twins"⟩)) = twinsEnd.runs := by
    funext i
    cases i <;> simp [twinsEnd]
  have laterSecond := laterFirst.trans (later_of_runs ranSecond rfl waits)
  rw [both] at laterSecond
  exact laterSecond

/-- When two runs have succeeded one after the other, the row tells that the second one
has succeeded. -/
theorem contenders_agree_of_twins :
    Reachable (fun _ => .create Bot.Dev.registry .default) ⟨"twins"⟩
      (fun i => ⟨⟨1⟩, "dev|ping", if i then "first" else "second", []⟩) twinsEnd ∧
    ∃ row, twinsEnd.tables.store.getExecution ⟨"twins"⟩ = some row ∧ row.state = .succeeded ∧
      row.error = none := by
  have initial : Initial (fun _ => .create Bot.Dev.registry .default) ⟨"twins"⟩
      (fun i => ⟨⟨1⟩, "dev|ping", if i then "first" else "second", []⟩) twins :=
    ⟨.answer (.answer (.answer .empty _ _) _ _) _ _, rfl, fun _ => rfl, rfl⟩
  have reachable := (Reachable.initial initial).later twins_later
  rcases reachable.contenders_agree (by decide +kernel) with ⟨_, _, _, ended⟩
  rcases ended (fun i => ⟨_, rfl⟩) with ⟨settled, present⟩
  rcases present false _ rfl (by simp) (by simp) with ⟨row, stored⟩
  rcases settled row stored with ⟨_, i, earlier, result, _, done, tells⟩
  obtain rfl : .ok ⟨"twins"⟩ = result := Program.done.inj done
  exact ⟨reachable, row, stored, tells.1, tells.2.1⟩

end Contention

end EventFlow
