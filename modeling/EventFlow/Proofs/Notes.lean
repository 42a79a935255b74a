import EventFlow.Proofs.Contract

/-!
# Notes on a run

Surroundings may be watched while programs run: beside their state notes are kept
of what is asked and answered.  Notes have no influence on a run.  So what they say
of a watched run is true of every run.
-/

namespace EventFlow.Program

variable {I : Interface} {S N α : Type}

/-- Surroundings in a state, and the notes that have been kept of them. -/
structure Noted (S N : Type) where
  state : S
  notes : N

/-- Surroundings that answer as before, while notes are kept of each question with
its answer. -/
def Answering.noting (answers : Answering I S)
    (note : (q : I.Question) → I.Answer q → N → N → Prop) : Answering I (Noted S N) :=
  fun s q a t => answers s.state q a t.state ∧ note q a s.notes t.notes

section Runs

variable {answers : Answering I S} {note : (q : I.Question) → I.Answer q → N → N → Prop}

/-- A watched run goes on behind an answer with a note of it. -/
theorem runs_noting_ask_iff {q : I.Question} {next : I.Answer q → Program I α} {s t : Noted S N}
    {r : α} : Runs (answers.noting note) (.ask q next) s r t ↔
      ∃ a u after, answers s.state q a u ∧ note q a s.notes after ∧
        Runs (answers.noting note) (next a) ⟨u, after⟩ r t := by
  rw [runs_ask_iff]
  constructor
  · rintro ⟨a, u, ⟨answered, noted⟩, rest⟩
    exact ⟨a, u.state, u.notes, answered, noted, rest⟩
  · rintro ⟨a, u, after, answered, noted, rest⟩
    exact ⟨a, ⟨u, after⟩, ⟨answered, noted⟩, rest⟩

/-- A watched run is a run. -/
theorem Runs.unwatched {p : Program I α} {s t : Noted S N} {r : α}
    (run : Runs (answers.noting note) p s r t) : Runs answers p s.state r t.state := by
  induction run with
  | done value s => exact .done value s.state
  | ask answered _ ih => exact .ask answered.1 ih

/-- Every run can be watched, if there is a note for every answer. -/
theorem Runs.watched (total : ∀ q a before, ∃ after, note q a before after) {p : Program I α}
    {s t : S} {r : α} (run : Runs answers p s r t) (before : N) :
    ∃ after, Runs (answers.noting note) p ⟨s, before⟩ r ⟨t, after⟩ := by
  induction run generalizing before with
  | done value s => exact ⟨before, .done value _⟩
  | @ask q _ _ _ _ a _ answered _ ih =>
      rcases total q a before with ⟨between, noted⟩
      rcases ih between with ⟨after, rest⟩
      exact ⟨after, .ask ⟨answered, noted⟩ rest⟩

end Runs

end EventFlow.Program
