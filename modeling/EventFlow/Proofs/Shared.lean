import EventFlow.Proofs.Contract
import EventFlow.Proofs.Store.WellFormed
import EventFlow.Service

/-!
# What tasks share

The tasks of a daemon share a store and a queue, whose tables answer every call
at some time.  Nothing is known of the other answers: of what the clock shows,
of what rules reply, of signals and of tasks; except that a fresh id is not
blank.  None of them changes the tables.
-/

namespace EventFlow

/-! ## Asking -/

namespace Service

variable {α : Type}

@[simp]
theorem now_bind (f : Instant → Routine α) :
    now >>= f = .ask (ServiceCall.now : service.Question) f := rfl

@[simp]
theorem freshId_bind (f : ExecutionId → Routine α) :
    freshId >>= f = .ask (ServiceCall.freshId : service.Question) f := rfl

@[simp]
theorem store_bind (call : StoreCall) (f : Except StoreError call.Result → Routine α) :
    store call >>= f = .ask (ServiceCall.store call : service.Question) f := rfl

@[simp]
theorem queue_bind (call : QueueCall) (f : Except QueueError call.Result → Routine α) :
    queue call >>= f = .ask (ServiceCall.queue call : service.Question) f := rfl

@[simp]
theorem isGiven_bind (signal : Signal) (f : Bool → Routine α) :
    isGiven signal >>= f = .ask (ServiceCall.isGiven signal : service.Question) f := rfl

end Service

/-! ## Answering -/

/-- The tables that the tasks of a daemon share. -/
structure Shared where
  store : Store
  queue : QueueTable

namespace Shared

/-- How a question may be answered, and what the tables are then. -/
def Answers (s : Shared) : (q : ServiceCall) → q.Answer → Shared → Prop
  | .store call, result, t =>
    ∃ now, result = (s.store.answer now call).1 ∧
      t = { s with store := (s.store.answer now call).2 }
  | .queue call, result, t =>
    ∃ now, result = (s.queue.answer now call).1 ∧
      t = { s with queue := (s.queue.answer now call).2 }
  | .freshId, id, t => id.isBlank = false ∧ t = s
  | _, _, t => t = s

/-- The answers that tables give to the programs of a daemon. -/
abbrev answering : Program.Answering service Shared := Answers

/-- An answer to every question: tables answer calls at one and the same time, no rule
replies, and nothing else keeps a task from going on. -/
def answerAt (now : Instant) (s : Shared) : (q : ServiceCall) → q.Answer × Shared
  | .store call => ((s.store.answer now call).1, { s with store := (s.store.answer now call).2 })
  | .queue call => ((s.queue.answer now call).1, { s with queue := (s.queue.answer now call).2 })
  | .freshId => (⟨"id"⟩, s)
  | .now => (now, s)
  | .elapsedMs => ((0 : Int), s)
  | .invoke _ _ _ _ _ => (.expired, s)
  | .isGiven _ => (false, s)
  | .give _ => ((), s)
  | .waitFor _ => ((), s)
  | .sleep _ _ => (false, s)
  | .sleepUntil _ _ => (false, s)
  | .spawn _ => ((⟨0⟩ : TaskId), s)
  | .join _ => (true, s)
  | .workers => (([] : List TaskId), s)
  | .setWorkers _ => ((), s)

theorem answers_answerAt (now : Instant) (s : Shared) (q : ServiceCall) :
    s.Answers q (s.answerAt now q).1 (s.answerAt now q).2 := by
  cases q with
  | store | queue => exact ⟨now, rfl, rfl⟩
  | freshId =>
      have named : ExecutionId.isBlank ⟨"id"⟩ = false := by decide +kernel
      exact ⟨named, rfl⟩
  | _ => rfl

/-- No question stays without an answer. -/
theorem exists_answers (s : Shared) (q : ServiceCall) : ∃ a t, s.Answers q a t :=
  ⟨_, _, s.answers_answerAt (.ofMilliseconds 0) q⟩

/-- Every program of a daemon runs to its end. -/
theorem exists_runs {α : Type} (p : Routine α) (s : Shared) :
    ∃ r t, Program.Runs answering p s r t :=
  Program.exists_runs exists_answers p s

/-- What changes the store is one of its operations. -/
theorem Answers.store_eq {s t : Shared} {q : ServiceCall} {a : q.Answer}
    (answered : s.Answers q a t) :
    t.store = s.store ∨ ∃ now call, t.store = (s.store.answer now call).2 := by
  cases q with
  | store call =>
      obtain ⟨now, _, rfl⟩ := answered
      exact .inr ⟨now, call, rfl⟩
  | queue call =>
      obtain ⟨_, _, rfl⟩ := answered
      exact .inl rfl
  | freshId => exact .inl (congrArg Shared.store answered.2)
  | _ => exact .inl (congrArg Shared.store answered)

theorem Answers.wellFormed {s t : Shared} {q : ServiceCall} {a : q.Answer}
    (answered : s.Answers q a t) (wellFormed : s.store.WellFormed) : t.store.WellFormed := by
  rcases answered.store_eq with same | ⟨now, call, changed⟩
  · exact same ▸ wellFormed
  · exact changed ▸ wellFormed.answer now call

theorem Answers.lastId_le {s t : Shared} {q : ServiceCall} {a : q.Answer}
    (answered : s.Answers q a t) : s.store.lastId ≤ t.store.lastId := by
  rcases answered.store_eq with same | ⟨now, call, changed⟩
  · exact Int.le_of_eq (congrArg Store.lastId same.symm)
  · exact changed ▸ (s.store.agreesBut_answer now call).lastId_le

/-- Rules that are there stay there. -/
theorem rateLimits_subset_of_runs {α : Type} {p : Routine α} {s t : Shared} {r : α}
    (run : Program.Runs answering p s r t) : s.store.rateLimits ⊆ t.store.rateLimits := by
  apply run.change_of_asks (Program.asks_of_all fun _ => trivial)
    (fun u v => u.store.rateLimits ⊆ v.store.rateLimits) (fun _ => List.Subset.refl _)
    (fun _ _ _ => List.Subset.trans)
  intro u q a v _ answered
  rcases answered.store_eq with same | ⟨now, call, changed⟩
  · exact same ▸ List.Subset.refl _
  · exact changed ▸ u.store.rateLimits_subset_answer now call

end Shared

end EventFlow
