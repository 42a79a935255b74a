import EventFlow.Proofs.Engine.Replies
import EventFlow.Proofs.Queue.Faltering

/-!
# Surroundings that do not disturb

A program has the tables to itself, nobody tells it to stop and no poll breaks down.  All that it
does not know beforehand is what the clock shows, what rules reply and which ids are fresh.
-/

namespace EventFlow

open Program Shared

/-- May a question be answered so when nothing disturbs?  The clock shows certain instants, no
signal is given, a poll does not break down, and a fresh id is one that no execution has. -/
def Undisturbed (shows : Instant → Prop) (s : Watched) : (q : ServiceCall) → q.Answer → Prop
  | .now, now => shows now
  | .isGiven _, given => given = false
  | .invoke _ _ _ (.poll _) _, reply => ∀ message, reply ≠ (.panicked message : Reply PollResult)
  | .freshId, id => s.state.store.getExecution id = none
  | _, _ => True

/-- The answers of tables that nothing disturbs, while the calls of rules are noted. -/
abbrev undisturbed (shows : Instant → Prop) : Answering service Watched :=
  fun s q a t => watching s q a t ∧ Undisturbed shows s q a

/-- Rules that never break down. -/
def Replies.Steady (replies : Replies) : Prop :=
  ∀ before call message, replies before call ≠ .panicked message

variable {shows : Instant → Prop} {s t : Watched}

theorem undisturbed_answerAt {replies : Replies} (steady : replies.Steady) {now : Instant}
    (shown : shows now) (s : Watched) (q : ServiceCall) :
    undisturbed shows s q (replies.answerAt now s q).1 (replies.answerAt now s q).2 := by
  rcases replies.answering_answerAt now s q with ⟨answered, allowed⟩
  refine ⟨answered, ?_⟩
  cases q with
  | now => exact shown
  | isGiven => rfl
  | freshId => exact allowed
  | invoke handle context params request limit =>
      cases request with
      | poll state => exact steady _ _
      | _ => trivial
  | _ => trivial

/-- While the clock shows some instant, every program runs to its end. -/
theorem exists_runs_undisturbed {α : Type} {now : Instant} (shown : shows now) (p : Routine α)
    (s : Watched) : ∃ r t, Runs (undisturbed shows) p s r t := by
  have steady : Replies.Steady fun _ _ => .expired := fun _ _ _ same => by cases same
  exact ⟨_, _, runs_run (undisturbed_answerAt steady shown) p s⟩

theorem eq_of_parts {state : Shared} {notes : List RuleCall} (same : t.state = state)
    (noted : t.notes = notes) : t = ⟨state, notes⟩ := by
  subst same noted
  rfl

theorem notes_of_undisturbed {q : ServiceCall} {a : q.Answer}
    (answered : undisturbed shows s q a t) (quiet : q.ruleCall? = none) : t.notes = s.notes := by
  rcases answered with ⟨⟨_, noted⟩, _⟩
  simpa [noteCall, quiet] using noted

theorem undisturbed_store {call : StoreCall} {result : Except StoreError call.Result}
    (answered : undisturbed shows s (.store call) result t) :
    ∃ now, result = (s.state.store.answer now call).1 ∧
      t = ⟨{ s.state with store := (s.state.store.answer now call).2 }, s.notes⟩ := by
  have notes := notes_of_undisturbed answered rfl
  rcases answered with ⟨⟨⟨now, told, stored⟩, _⟩, _⟩
  exact ⟨now, told, eq_of_parts stored notes⟩

theorem undisturbed_now {now : Instant} (answered : undisturbed shows s .now now t) :
    t = s ∧ shows now := by
  have notes := notes_of_undisturbed answered rfl
  rcases answered with ⟨⟨same, _⟩, shown⟩
  exact ⟨eq_of_parts same notes, shown⟩

theorem undisturbed_isGiven {signal : Signal} {given : Bool}
    (answered : undisturbed shows s (.isGiven signal) given t) : t = s ∧ given = false := by
  have notes := notes_of_undisturbed answered rfl
  rcases answered with ⟨⟨same, _⟩, silent⟩
  exact ⟨eq_of_parts same notes, silent⟩

theorem undisturbed_freshId {id : ExecutionId} (answered : undisturbed shows s .freshId id t) :
    t = s ∧ id.isBlank = false ∧ s.state.store.getExecution id = none := by
  have notes := notes_of_undisturbed answered rfl
  rcases answered with ⟨⟨⟨named, same⟩, _⟩, fresh⟩
  exact ⟨eq_of_parts same notes, named, fresh⟩

section Runs

variable {α : Type} {p : Routine α} {r : α}

theorem narrows_undisturbed : Narrows (undisturbed shows) :=
  fun _ _ _ _ answered => answered.1

/-- What is not disturbed may as well falter. -/
theorem faltering_of_undisturbed (ran : Runs (undisturbed shows) p s r t) :
    Runs faltering p s.state r t.state := by
  have within (s : Watched) (q : ServiceCall) (a : q.Answer) (t : Watched)
      (answered : undisturbed shows s q a t) : faltering.noting noteCall s q a t := by
    rcases answered with ⟨⟨answered, noted⟩, allowed⟩
    refine ⟨?_, noted⟩
    cases q with
    | freshId => exact ⟨answered, allowed⟩
    | queue call =>
        cases call with
        | push job => exact .inl answered
        | _ => exact answered
    | _ => exact answered
  exact (ran.mono within).unwatched

theorem reachable_of_undisturbed (ran : Runs (undisturbed shows) p s r t)
    (reachable : s.state.store.Reachable) : t.state.store.Reachable :=
  reachable_of_runs_faltering (faltering_of_undisturbed ran) reachable

end Runs

end EventFlow
