import EventFlow.Proofs.Notes
import EventFlow.Proofs.Shared

/-!
# Running against a clock

A clock never goes back: each time that it is asked it shows an instant that is not
before the one that it showed last.  What it has shown last is noted while programs run,
so that it can be said when something happens during a run.
-/

namespace EventFlow

open Program

/-- Notes what the clock shows: one of certain instants, and not an earlier one than
before. -/
def clocking (shows : Instant → Prop) : (q : ServiceCall) → q.Answer → Instant → Instant → Prop
  | .now, now, before, after => before ≤ now ∧ shows now ∧ after = now
  | _, _, before, after => after = before

/-- Tables, and what the clock has shown last. -/
abbrev Timed : Type := Noted Shared Instant

/-- What the clock has shown last. -/
abbrev Timed.clock (s : Timed) : Instant := s.notes

/-- The answers that tables give while the clock shows certain instants. -/
abbrev timing (shows : Instant → Prop) : Answering service Timed :=
  Shared.answering.noting (clocking shows)

/-- An instant that the clock may have shown between two states. -/
structure Timed.Passes (shows : Instant → Prop) (s t : Timed) (now : Instant) : Prop where
  later : s.clock ≤ now
  earlier : now ≤ t.clock
  shown : shows now

theorem Timed.Passes.widen {shows : Instant → Prop} {s t u v : Timed} {now : Instant}
    (passes : Passes shows t u now) (before : s.clock ≤ t.clock) (behind : u.clock ≤ v.clock) :
    Passes shows s v now :=
  ⟨Instant.le_trans before passes.later, Instant.le_trans passes.earlier behind, passes.shown⟩

/-- An answer to every question, while the clock stands. -/
def timedAt (now : Instant) (s : Timed) (q : ServiceCall) : q.Answer × Timed :=
  ((s.state.answerAt now q).1, ⟨(s.state.answerAt now q).2, now⟩)

section Runs

variable {shows : Instant → Prop} {α : Type} {s t : Timed} {r : α}

theorem timing_now_iff {f : Instant → Routine α} :
    Runs (timing shows) (.ask (ServiceCall.now : service.Question) f) s r t ↔
      ∃ now, s.clock ≤ now ∧ shows now ∧ Runs (timing shows) (f now) ⟨s.state, now⟩ r t := by
  apply runs_noting_ask_iff.trans
  constructor
  · rintro ⟨_, u, now, rfl, ⟨later, shown, rfl⟩, rest⟩
    exact ⟨now, later, shown, rest⟩
  · rintro ⟨now, later, shown, rest⟩
    exact ⟨now, s.state, now, rfl, ⟨later, shown, rfl⟩, rest⟩

theorem timing_store_iff {call : StoreCall} {f : Except StoreError call.Result → Routine α} :
    Runs (timing shows) (.ask (ServiceCall.store call : service.Question) f) s r t ↔
      ∃ now, Runs (timing shows) (f (s.state.store.answer now call).1)
        ⟨{ s.state with store := (s.state.store.answer now call).2 }, s.notes⟩ r t := by
  apply runs_noting_ask_iff.trans
  constructor
  · rintro ⟨_, _, _, ⟨now, rfl, rfl⟩, rfl, rest⟩
    exact ⟨now, rest⟩
  · rintro ⟨now, rest⟩
    exact ⟨_, _, _, ⟨now, rfl, rfl⟩, rfl, rest⟩

theorem timing_freshId_iff {f : ExecutionId → Routine α} :
    Runs (timing shows) (.ask (ServiceCall.freshId : service.Question) f) s r t ↔
      ∃ id, id.isBlank = false ∧ Runs (timing shows) (f id) s r t := by
  apply runs_noting_ask_iff.trans
  constructor
  · rintro ⟨id, _, _, ⟨named, rfl⟩, rfl, rest⟩
    exact ⟨id, named, rest⟩
  · rintro ⟨id, named, rest⟩
    exact ⟨id, s.state, s.notes, ⟨named, rfl⟩, rfl, rest⟩

/-- A clock that shows certain instants is one that may show more. -/
theorem timing_mono {wider : Instant → Prop} (within : ∀ now, shows now → wider now)
    {q : ServiceCall} {a : q.Answer} (answered : timing shows s q a t) : timing wider s q a t := by
  rcases answered with ⟨possible, noted⟩
  cases q with
  | now => exact ⟨possible, noted.1, within _ noted.2.1, noted.2.2⟩
  | _ => exact ⟨possible, noted⟩

/-- The clock does not go back. -/
theorem clock_le_of_runs {p : Routine α} (run : Runs (timing shows) p s r t) :
    s.clock ≤ t.clock := by
  apply run.change_of_asks (asks_of_all fun _ => trivial) (fun u v => u.clock ≤ v.clock)
    (fun u => Instant.le_refl u.clock) (fun _ _ _ => Instant.le_trans)
  rintro u q a ⟨_, after⟩ - answered
  cases q with
  | now =>
      rcases answered with ⟨_, later, _, rfl⟩
      exact later
  | _ =>
      rcases answered with ⟨_, rfl⟩
      exact Instant.le_refl _

/-- A clock that stands shows what it has shown last. -/
theorem timing_timedAt (s : Timed) (q : ServiceCall) :
    timing (· = s.clock) s q (timedAt s.clock s q).1 (timedAt s.clock s q).2 := by
  constructor
  · exact s.state.answers_answerAt s.clock q
  · cases q with
    | now => exact ⟨Instant.le_refl _, rfl, rfl⟩
    | _ => rfl

/-- A run against a clock that stands. -/
theorem runs_timedAt {now : Instant} (p : Routine α) (s : Timed) (stands : s.clock = now) :
    Runs (timing (· = now)) p s (p.run (timedAt now) s).1 (p.run (timedAt now) s).2 := by
  apply runs_run_of_valid (fun u : Timed => u.clock = now) _ p s stands
  rintro u q rfl
  exact ⟨timing_timedAt u q, rfl⟩

/-- And against one that may go on from what it has shown last. -/
theorem runs_timedAt_of_shown {p : Routine α} {s : Timed} (shown : shows s.clock) :
    Runs (timing shows) p s (p.run (timedAt s.clock) s).1 (p.run (timedAt s.clock) s).2 :=
  (runs_timedAt p s rfl).mono fun _ _ _ _ => timing_mono fun _ same => same ▸ shown

end Runs

end EventFlow
