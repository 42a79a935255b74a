import EventFlow.Proofs.Contract
import EventFlow.Retry
import Mathlib.Data.List.Chain
import Mathlib.Order.Bounds.Defs

/-!
# The course of a retried operation

While an operation is retried, calls of it and waits follow each other.  What a call brings and how
long it takes, how long a wait takes that nothing cuts short, and when the signal is given is not
up to the program that retries: it is its prospect.  From a prospect and a configuration follows
when each call would begin and end and which waits would be cut short.  The program keeps to this
timetable up to the first call that succeeds, the first wait that is cut short or the last attempt,
and ends there.
-/

namespace EventFlow

open Program

/-! ## Attempts -/

section Attempts

variable {ε α S : Type} {answers : Answering service S} {interrupt : Signal}
  {config : RetryConfig} {operation : Routine (Except ε α)} {left attempt : Nat}
  {delay : Duration} {s t : S} {r : Except (RetryError ε) α}

/-- The last attempt succeeds, or its error is the last one. -/
theorem runs_retryFrom_zero_iff :
    Runs answers (retryFrom config interrupt operation 0 attempt delay) s r t ↔
      (∃ a, Runs answers operation s (.ok a) t ∧ r = .ok a) ∨
        ∃ e, Runs answers operation s (.error e) t ∧
          r = .error (.maxAttemptsReached attempt e) := by
  rw [retryFrom.eq_def, runs_bind_iff]
  constructor
  · rintro ⟨e | a, u, called, ended⟩
    · obtain ⟨rfl, rfl⟩ := runs_done_iff.mp ended
      exact .inr ⟨e, called, rfl⟩
    · obtain ⟨rfl, rfl⟩ := runs_done_iff.mp ended
      exact .inl ⟨a, called, rfl⟩
  · rintro (⟨a, called, rfl⟩ | ⟨e, called, rfl⟩)
    · exact ⟨.ok a, t, called, .done _ _⟩
    · exact ⟨.error e, t, called, .done _ _⟩

/-- An attempt with others left behind it succeeds, or there is a wait behind it, which is cut
short or leads to the next attempt. -/
theorem runs_retryFrom_succ_iff :
    Runs answers (retryFrom config interrupt operation (left + 1) attempt delay) s r t ↔
      (∃ a, Runs answers operation s (.ok a) t ∧ r = .ok a) ∨
        ∃ e u, Runs answers operation s (.error e) u ∧
          (answers u (ServiceCall.sleep delay (some interrupt) : service.Question) true t ∧
              r = .error .cancelled ∨
            ∃ v, answers u (ServiceCall.sleep delay (some interrupt) : service.Question) false v ∧
              Runs answers (retryFrom config interrupt operation left (attempt + 1)
                (config.nextDelay delay)) v r t) := by
  rw [retryFrom.eq_def, runs_bind_iff]
  constructor
  · rintro ⟨e | a, u, called, rest⟩
    · obtain ⟨cut, v, answered, rest⟩ := runs_ask_iff.mp rest
      cases cut with
      | true =>
          obtain ⟨rfl, rfl⟩ := runs_done_iff.mp rest
          exact .inr ⟨e, u, called, .inl ⟨answered, rfl⟩⟩
      | false => exact .inr ⟨e, u, called, .inr ⟨v, answered, rest⟩⟩
    · obtain ⟨rfl, rfl⟩ := runs_done_iff.mp rest
      exact .inl ⟨a, called, rfl⟩
  · rintro (⟨a, called, rfl⟩ | ⟨e, u, called, ⟨answered, rfl⟩ | ⟨v, answered, rest⟩⟩)
    · exact ⟨.ok a, t, called, .done _ _⟩
    · exact ⟨.error e, u, called, .ask answered (.done _ _)⟩
    · exact ⟨.error e, u, called, .ask answered rest⟩

end Attempts

/-! ## What happens -/

/-- A part of the time in which an operation is retried, in nanoseconds since the first call began:
a call, or a wait of which it is noted how long it was meant to be and whether it was cut short. -/
inductive Happening where
  | call (start finish : Int)
  | wait (delay : Duration) (start finish : Int) (isCut : Bool)
  deriving DecidableEq, Repr

namespace Happening

def start : Happening → Int
  | .call start _ => start
  | .wait _ start _ _ => start

def finish : Happening → Int
  | .call _ finish => finish
  | .wait _ _ finish _ => finish

/-- Is it a call? -/
def isCall : Happening → Bool
  | .call _ _ => true
  | .wait _ _ _ _ => false

/-- How long a wait was meant to be. -/
def delay? : Happening → Option Duration
  | .call _ _ => none
  | .wait delay _ _ _ => some delay

end Happening

/-- What has happened so far, and the time. -/
structure Course where
  clock : Int
  happenings : List Happening

namespace Course

/-- Nothing has happened. -/
def start : Course := ⟨0, []⟩

/-- Something more happens. -/
def next (c : Course) (happening : Happening) : Course :=
  ⟨happening.finish, c.happenings ++ [happening]⟩

/-- The calls that have been made. -/
def calls (c : Course) : List Happening :=
  c.happenings.filter Happening.isCall

/-- How long the waits were meant to be. -/
def delays (c : Course) : List Duration :=
  c.happenings.filterMap Happening.delay?

/-- One thing happens at a time: each begins when the one before it is over, and the clock shows
when the last one was. -/
structure Contiguous (c : Course) : Prop where
  chain : c.happenings.IsChain fun earlier later => earlier.finish = later.start
  clock : ∀ last ∈ c.happenings.getLast?, last.finish = c.clock

theorem contiguous_start : start.Contiguous where
  chain := .nil
  clock := by simp [start]

variable (c : Course) (start finish : Int) (delay : Duration) (isCut : Bool)

@[simp]
theorem calls_next_call : (c.next (.call start finish)).calls = c.calls ++ [.call start finish] :=
  List.filter_append _ _

@[simp]
theorem calls_next_wait : (c.next (.wait delay start finish isCut)).calls = c.calls :=
  (List.filter_append _ _).trans (List.append_nil _)

@[simp]
theorem delays_next_call : (c.next (.call start finish)).delays = c.delays :=
  List.filterMap_append.trans (List.append_nil _)

@[simp]
theorem delays_next_wait :
    (c.next (.wait delay start finish isCut)).delays = c.delays ++ [delay] :=
  List.filterMap_append

/-- What begins at the time that the clock shows may happen next. -/
theorem Contiguous.next {c : Course} {happening : Happening} (contiguous : c.Contiguous)
    (now : happening.start = c.clock) : (c.next happening).Contiguous where
  chain := by
    apply contiguous.chain.append (.singleton happening)
    intro last lastMem first firstMem
    obtain rfl : happening = first := by simpa using firstMem
    rw [contiguous.clock last lastMem, now]
  clock last lastMem := by
    obtain rfl : happening = last := by simpa [Course.next] using lastMem
    rfl

end Course

/-- The wait behind so many others. -/
def RetryConfig.delay (config : RetryConfig) : Nat → Duration
  | 0 => config.initialDelay
  | n + 1 => config.nextDelay (config.delay n)

/-- What is to come while an operation is retried, for calls and waits that are counted from zero:
what each call brings and how long it lasts, how long a wait of some duration takes if nothing cuts
it short, and when the signal is given, if ever.  A wait that ends at the very moment in which the
signal is given may yield to it or not. -/
structure Prospect (ε α : Type) where
  outcome : Nat → Except ε α
  lasts : Nat → Nat
  takes : Nat → Duration → Nat
  given : Option Int
  yields : Nat → Bool

namespace Prospect

variable {ε α : Type}

/-- The next call: it lasts as long as it does, whether or not the signal is given. -/
def call (p : Prospect ε α) (c : Course) : Except ε α × Course :=
  let n := c.calls.length
  (p.outcome n, c.next (.call c.clock (c.clock + p.lasts n)))

/-- When a wait is cut short, if it is: at once if the signal has been given before, and else when
it is given before the wait is over. -/
def cut? (p : Prospect ε α) (n : Nat) (start finish : Int) : Option Int :=
  p.given.bind fun given =>
    if given < start then some start
    else if given < finish ∨ given = finish ∧ p.yields n = true then some given
    else none

/-- The next wait, and whether it is cut short. -/
def wait (p : Prospect ε α) (delay : Duration) (c : Course) : Bool × Course :=
  let n := c.delays.length
  let finish := c.clock + p.takes n delay
  let cut := p.cut? n c.clock finish
  (cut.isSome, c.next (.wait delay c.clock (cut.getD finish) cut.isSome))

/-- Surroundings in which an operation and the waits behind it go as foreseen. -/
structure Foreseen {S : Type} (p : Prospect ε α) (interrupt : Signal)
    (operation : Routine (Except ε α)) (answers : Answering service S) (course : S → Course) :
    Prop where
  call_ends : ∀ s, ∃ r t, Runs answers operation s r t
  call : ∀ {s r t}, Runs answers operation s r t → (r, course t) = p.call (course s)
  wait_ends : ∀ s delay, ∃ a t,
    answers s (ServiceCall.sleep delay (some interrupt) : service.Question) a t
  wait : ∀ {s delay a t},
    answers s (ServiceCall.sleep delay (some interrupt) : service.Question) a t →
      (a, course t) = p.wait delay (course s)

/-! ## The timetable -/

section Timetable

variable (p : Prospect ε α) (config : RetryConfig)

/-- When a call begins, if those before it fail and no wait is cut short. -/
def begins : Nat → Int
  | 0 => 0
  | n + 1 => begins n + p.lasts n + p.takes n (config.delay n)

/-- When it ends. -/
def ends (n : Nat) : Int :=
  p.begins config n + p.lasts n

/-- When the wait behind a call is cut short, if it is. -/
def cutAt? (n : Nat) : Option Int :=
  p.cut? n (p.ends config n) (p.begins config (n + 1))

theorem begins_succ (n : Nat) :
    p.begins config (n + 1) = p.ends config n + p.takes n (config.delay n) := rfl

/-- A call, from its beginning to its end. -/
def callAt (n : Nat) : Happening :=
  .call (p.begins config n) (p.ends config n)

/-- So many calls, and a whole wait behind each. -/
def unbroken : Nat → Course
  | 0 => .start
  | n + 1 => ((unbroken n).next (p.callAt config n)).next
      (.wait (config.delay n) (p.ends config n) (p.begins config (n + 1)) false)

/-- What has happened when a call is over. -/
def called (n : Nat) : Course :=
  (p.unbroken config n).next (p.callAt config n)

/-- What has happened when the wait behind a call is cut short. -/
def brokenOff (n : Nat) (time : Int) : Course :=
  (p.called config n).next (.wait (config.delay n) (p.ends config n) time true)

/-- A call fails, and the wait behind it is not cut short. -/
def GoesOn (n : Nat) : Prop :=
  (∃ e, p.outcome n = .error e) ∧ p.cutAt? config n = none

/-- A call that is not the last attempt fails, and the wait behind it finds the signal given or is
cut short by it. -/
def BreaksOff (n : Nat) : Prop :=
  n + 1 < config.attempts ∧ (∃ e, p.outcome n = .error e) ∧ (p.cutAt? config n).isSome = true

/-- A call is the first to succeed, is among the attempts, and no wait before it is cut short. -/
def Wins (n : Nat) : Prop :=
  IsLeast {k | ∃ a, p.outcome k = .ok a} n ∧ n < config.attempts ∧ ∀ m < n, ¬ p.BreaksOff config m

variable (n : Nat)

theorem clock_unbroken : (p.unbroken config n).clock = p.begins config n := by
  cases n <;> rfl

theorem calls_unbroken :
    (p.unbroken config n).calls = (List.range n).map (p.callAt config) := by
  induction n with
  | zero => rfl
  | succ n ih => rw [unbroken, Course.calls_next_wait, callAt, Course.calls_next_call, ih,
      List.range_succ, List.map_append, List.map_singleton, callAt]

theorem delays_unbroken :
    (p.unbroken config n).delays = (List.range n).map config.delay := by
  induction n with
  | zero => rfl
  | succ n ih => rw [unbroken, Course.delays_next_wait, callAt, Course.delays_next_call, ih,
      List.range_succ, List.map_append, List.map_singleton]

theorem calls_called :
    (p.called config n).calls = (List.range (n + 1)).map (p.callAt config) := by
  rw [called, callAt, Course.calls_next_call, calls_unbroken, List.range_succ, List.map_append,
    List.map_singleton, callAt]

theorem clock_called : (p.called config n).clock = p.ends config n := rfl

theorem delays_called : (p.called config n).delays = (List.range n).map config.delay := by
  rw [called, callAt, Course.delays_next_call, delays_unbroken]

/-- The call behind an unbroken course. -/
theorem call_unbroken :
    p.call (p.unbroken config n) = (p.outcome n, p.called config n) := by
  simp only [call, calls_unbroken, List.length_map, List.length_range, clock_unbroken]
  rfl

/-- The wait behind a call that is not cut short. -/
theorem wait_called_of_whole (whole : p.cutAt? config n = none) :
    p.wait (config.delay n) (p.called config n) = (false, p.unbroken config (n + 1)) := by
  rw [cutAt?, begins_succ] at whole
  simp only [wait, clock_called, delays_called, List.length_map, List.length_range, whole]
  rfl

/-- The wait behind a call that is cut short. -/
theorem wait_called_of_cut {time : Int} (cut : p.cutAt? config n = some time) :
    p.wait (config.delay n) (p.called config n) = (true, p.brokenOff config n time) := by
  rw [cutAt?, begins_succ] at cut
  simp only [wait, clock_called, delays_called, List.length_map, List.length_range, cut]
  rfl

end Timetable

/-! ## Runs -/

section Runs

variable {S : Type} {answers : Answering service S} {interrupt : Signal} {config : RetryConfig}
  {operation : Routine (Except ε α)} {left : Nat} {s t : S} {r : Except (RetryError ε) α}

/-- Retrying comes to an end. -/
theorem Foreseen.exists_runs {p : Prospect ε α} {course : S → Course}
    (foreseen : p.Foreseen interrupt operation answers course) (left attempt : Nat)
    (delay : Duration) (s : S) :
    ∃ r t, Runs answers (retryFrom config interrupt operation left attempt delay) s r t := by
  induction left generalizing attempt delay s with
  | zero =>
      obtain ⟨e | a, t, called⟩ := foreseen.call_ends s
      · exact ⟨_, t, runs_retryFrom_zero_iff.mpr (.inr ⟨e, called, rfl⟩)⟩
      · exact ⟨_, t, runs_retryFrom_zero_iff.mpr (.inl ⟨a, called, rfl⟩)⟩
  | succ left ih =>
      obtain ⟨e | a, u, called⟩ := foreseen.call_ends s
      · obtain ⟨cut, v, answered⟩ := foreseen.wait_ends u delay
        cases cut with
        | true =>
            exact ⟨_, v, runs_retryFrom_succ_iff.mpr (.inr ⟨e, u, called, .inl ⟨answered, rfl⟩⟩)⟩
        | false =>
            obtain ⟨r, t, rest⟩ := ih (attempt + 1) (config.nextDelay delay) v
            exact ⟨r, t, runs_retryFrom_succ_iff.mpr
              (.inr ⟨e, u, called, .inr ⟨v, answered, rest⟩⟩)⟩
      · exact ⟨_, u, runs_retryFrom_succ_iff.mpr (.inl ⟨a, called, rfl⟩)⟩

/-- How retrying ends, and what has happened then. -/
inductive Finishes (p : Prospect ε α) (config : RetryConfig) :
    Except (RetryError ε) α → Course → Prop where
  | succeeded {n : Nat} {a : α} (within : n < config.attempts)
      (goesOn : ∀ k < n, p.GoesOn config k) (succeeds : p.outcome n = .ok a) :
      Finishes p config (.ok a) (p.called config n)
  | cancelled {n : Nat} {e : ε} {time : Int} (within : n + 1 < config.attempts)
      (goesOn : ∀ k < n, p.GoesOn config k) (fails : p.outcome n = .error e)
      (cut : p.cutAt? config n = some time) :
      Finishes p config (.error .cancelled) (p.brokenOff config n time)
  | exhausted {n : Nat} {e : ε} (last : n + 1 = config.attempts)
      (goesOn : ∀ k < n, p.GoesOn config k) (fails : p.outcome n = .error e) :
      Finishes p config (.error (.maxAttemptsReached (n + 1) e)) (p.called config n)

section Foreseen

variable {p : Prospect ε α} {course : S → Course} {n : Nat}

/-- A call behind an unbroken course is the one that is foreseen. -/
theorem Foreseen.call_behind (foreseen : p.Foreseen interrupt operation answers course)
    (reached : course s = p.unbroken config n) {outcome : Except ε α}
    (ran : Runs answers operation s outcome t) :
    p.outcome n = outcome ∧ course t = p.called config n := by
  have called := foreseen.call ran
  rw [reached, call_unbroken] at called
  obtain ⟨same, after⟩ := Prod.mk.inj called
  exact ⟨same.symm, after⟩

/-- And so is the wait behind it. -/
theorem Foreseen.wait_behind (foreseen : p.Foreseen interrupt operation answers course)
    (reached : course s = p.called config n) {isCut : Bool}
    (answered : answers s
      (ServiceCall.sleep (config.delay n) (some interrupt) : service.Question) isCut t) :
    isCut = false ∧ p.cutAt? config n = none ∧ course t = p.unbroken config (n + 1) ∨
      ∃ time, isCut = true ∧ p.cutAt? config n = some time ∧
        course t = p.brokenOff config n time := by
  have waited := foreseen.wait answered
  rw [reached] at waited
  cases cut : p.cutAt? config n with
  | none =>
      rw [p.wait_called_of_whole config n cut] at waited
      obtain ⟨rfl, after⟩ := Prod.mk.inj waited
      exact .inl ⟨rfl, rfl, after⟩
  | some time =>
      rw [p.wait_called_of_cut config n cut] at waited
      obtain ⟨rfl, after⟩ := Prod.mk.inj waited
      exact .inr ⟨time, rfl, rfl, after⟩

/-- Retrying keeps to the timetable: behind an unbroken course it goes on to one of its ends. -/
theorem Foreseen.finishes (foreseen : p.Foreseen interrupt operation answers course)
    (budget : n + left + 1 = config.attempts) (goesOn : ∀ k < n, p.GoesOn config k)
    (reached : course s = p.unbroken config n)
    (ran : Runs answers
      (retryFrom config interrupt operation left (n + 1) (config.delay n)) s r t) :
    p.Finishes config r (course t) := by
  induction left generalizing n s with
  | zero =>
      rcases runs_retryFrom_zero_iff.mp ran with ⟨a, call, rfl⟩ | ⟨e, call, rfl⟩
      · obtain ⟨succeeds, after⟩ := foreseen.call_behind reached call
        exact after ▸ .succeeded (by omega) goesOn succeeds
      · obtain ⟨fails, after⟩ := foreseen.call_behind reached call
        exact after ▸ .exhausted budget goesOn fails
  | succ left ih =>
      rcases runs_retryFrom_succ_iff.mp ran with ⟨a, call, rfl⟩ | ⟨e, u, call, wait⟩
      · obtain ⟨succeeds, after⟩ := foreseen.call_behind reached call
        exact after ▸ .succeeded (by omega) goesOn succeeds
      obtain ⟨fails, after⟩ := foreseen.call_behind reached call
      rcases wait with ⟨answered, rfl⟩ | ⟨v, answered, rest⟩
      · rcases foreseen.wait_behind after answered with ⟨⟨⟩, -⟩ | ⟨time, -, cut, after⟩
        exact after ▸ .cancelled (by omega) goesOn fails cut
      · rcases foreseen.wait_behind after answered with ⟨-, whole, after⟩ | ⟨_, ⟨⟩, -⟩
        have goesOnHere : ∀ k < n + 1, p.GoesOn config k :=
          Nat.forall_lt_succ_right.mpr ⟨goesOn, ⟨e, fails⟩, whole⟩
        exact ih (by omega) goesOnHere after rest

/-- From its start retrying goes on to one of the ends of the timetable. -/
theorem Foreseen.retry_finishes (foreseen : p.Foreseen interrupt operation answers course)
    (fresh : course s = .start) (ran : Runs answers (retry config interrupt operation) s r t) :
    p.Finishes config r (course t) := by
  have positive : 1 ≤ config.attempts := Nat.le_max_right _ _
  exact foreseen.finishes (by omega) (fun _ before => absurd before (Nat.not_lt_zero _)) fresh ran

end Foreseen

end Runs

/-! ## The ends of the timetable -/

section Ends

variable (p : Prospect ε α) (config : RetryConfig)

theorem contiguous_unbroken (n : Nat) : (p.unbroken config n).Contiguous := by
  induction n with
  | zero => exact Course.contiguous_start
  | succ n ih =>
      have called : (p.called config n).Contiguous := ih.next (p.clock_unbroken config n).symm
      exact called.next rfl

theorem contiguous_called (n : Nat) : (p.called config n).Contiguous :=
  (p.contiguous_unbroken config n).next (p.clock_unbroken config n).symm

theorem contiguous_brokenOff (n : Nat) (time : Int) : (p.brokenOff config n time).Contiguous :=
  (p.contiguous_called config n).next rfl

theorem calls_brokenOff (n : Nat) (time : Int) :
    (p.brokenOff config n time).calls = (List.range (n + 1)).map (p.callAt config) := by
  rw [brokenOff, Course.calls_next_wait, calls_called]

theorem delays_brokenOff (n : Nat) (time : Int) :
    (p.brokenOff config n time).delays = (List.range (n + 1)).map config.delay := by
  rw [brokenOff, Course.delays_next_wait, delays_called, List.range_succ, List.map_append,
    List.map_singleton]

variable {p config} {n k : Nat} {r : Except (RetryError ε) α} {c : Course}

/-- No call succeeds before retrying goes on no more. -/
theorem le_of_succeeds (goesOn : ∀ j < n, p.GoesOn config j) {a : α}
    (succeeds : p.outcome k = .ok a) : n ≤ k := by
  by_contra before
  obtain ⟨⟨e, fails⟩, -⟩ := goesOn k (Nat.lt_of_not_le before)
  cases succeeds.symm.trans fails

/-- And no wait is cut short before. -/
theorem le_of_breaksOff (goesOn : ∀ j < n, p.GoesOn config j) (breaksOff : p.BreaksOff config k) :
    n ≤ k := by
  by_contra before
  obtain ⟨-, whole⟩ := goesOn k (Nat.lt_of_not_le before)
  obtain ⟨-, -, cut⟩ := breaksOff
  rw [whole] at cut
  cases cut

theorem wins_of_succeeds (within : n < config.attempts)
    (goesOn : ∀ j < n, p.GoesOn config j) {a : α} (succeeds : p.outcome n = .ok a) :
    p.Wins config n :=
  ⟨⟨⟨a, succeeds⟩, fun _ ⟨_, also⟩ => le_of_succeeds goesOn also⟩, within,
    fun _ before breaksOff => Nat.not_le_of_lt before (le_of_breaksOff goesOn breaksOff)⟩

/-- With a call that wins, its value is the result. -/
theorem Finishes.of_wins (finishes : p.Finishes config r c) (wins : p.Wins config k) :
    ∃ a, p.outcome k = .ok a ∧ r = .ok a ∧ c = p.called config k := by
  obtain ⟨⟨⟨a, succeeds⟩, least⟩, within, unbroken⟩ := wins
  cases finishes with
  | @succeeded n b _ goesOn also =>
      obtain rfl : n = k := Nat.le_antisymm (le_of_succeeds goesOn succeeds) (least ⟨b, also⟩)
      exact ⟨b, also, rfl, rfl⟩
  | @cancelled n e time before goesOn fails cut =>
      have le := le_of_succeeds goesOn succeeds
      rcases Nat.lt_or_eq_of_le le with earlier | rfl
      · exact absurd ⟨before, ⟨e, fails⟩, Option.isSome_of_eq_some cut⟩ (unbroken n earlier)
      · cases succeeds.symm.trans fails
  | @exhausted n e last goesOn fails =>
      have le := le_of_succeeds goesOn succeeds
      obtain rfl : n = k := by omega
      cases succeeds.symm.trans fails

/-- With no call that wins, the first wait that is cut short ends it. -/
theorem Finishes.of_breaksOff (finishes : p.Finishes config r c) (lost : ¬ ∃ k, p.Wins config k)
    (first : IsLeast {m | p.BreaksOff config m} k) :
    r = .error .cancelled ∧
      ∃ time, p.cutAt? config k = some time ∧ c = p.brokenOff config k time := by
  obtain ⟨breaksOff, least⟩ := first
  cases finishes with
  | @succeeded n a within goesOn succeeds =>
      exact absurd ⟨n, wins_of_succeeds within goesOn succeeds⟩ lost
  | @cancelled n e time before goesOn fails cut =>
      have le := le_of_breaksOff goesOn breaksOff
      have also : p.BreaksOff config n := ⟨before, ⟨e, fails⟩, Option.isSome_of_eq_some cut⟩
      obtain rfl : n = k := Nat.le_antisymm le (least also)
      exact ⟨rfl, time, cut, rfl⟩
  | @exhausted n e last goesOn fails =>
      have le := le_of_breaksOff goesOn breaksOff
      have before := breaksOff.1
      omega

/-- With neither, all attempts are used up. -/
theorem Finishes.of_lost (finishes : p.Finishes config r c) (lost : ¬ ∃ k, p.Wins config k)
    (whole : ∀ m, ¬ p.BreaksOff config m) :
    ∃ e, p.outcome (config.attempts - 1) = .error e ∧
      r = .error (.maxAttemptsReached config.attempts e) ∧
      c = p.called config (config.attempts - 1) := by
  cases finishes with
  | @succeeded n a within goesOn succeeds =>
      exact absurd ⟨n, wins_of_succeeds within goesOn succeeds⟩ lost
  | @cancelled n e time before goesOn fails cut =>
      exact absurd ⟨before, ⟨e, fails⟩, Option.isSome_of_eq_some cut⟩ (whole n)
  | @exhausted n e last goesOn fails =>
      rw [← last]
      exact ⟨e, fails, rfl, rfl⟩

/-- What has happened in the end: one thing at a time, calls that are not cut short, and waits
that grow as they should. -/
theorem Finishes.course (finishes : p.Finishes config r c) :
    c.Contiguous ∧
    c.calls = (List.range c.calls.length).map (p.callAt config) ∧
    c.delays = (List.range c.delays.length).map config.delay ∧
    1 ≤ c.calls.length ∧ c.calls.length ≤ config.attempts ∧
    c.delays.length ≤ c.calls.length ∧ c.delays.length < config.attempts ∧
    (r = .error .cancelled → c.calls.length < config.attempts) := by
  cases finishes with
  | @succeeded n a within goesOn succeeds =>
      simp only [calls_called, delays_called, List.length_map, List.length_range]
      exact ⟨p.contiguous_called config n, trivial, trivial, by omega, within, by omega, within,
        nofun⟩
  | @cancelled n e time before goesOn fails cut =>
      simp only [calls_brokenOff, delays_brokenOff, List.length_map, List.length_range]
      exact ⟨p.contiguous_brokenOff config n time, trivial, trivial, by omega, by omega, le_rfl,
        before,
        fun _ => before⟩
  | @exhausted n e last goesOn fails =>
      simp only [calls_called, delays_called, List.length_map, List.length_range]
      exact ⟨p.contiguous_called config n, trivial, trivial, by omega, by omega, by omega, by omega,
        nofun⟩

end Ends

/-- Retrying is settled by what is to come.  It comes to an end, and the course up to there is that
of the timetable: calls one at a time, each from its beginning to its end, at least one and not
more than the attempts, and behind a failed call a wait, the first as long as configured and each
other one as long as follows from the one before it.  If some call is the first to succeed, is
among the attempts and comes before any wait that is cut short, its value is the result, no matter
whether the signal is given while it lasts; else if a wait is cut short, the first one that is ends
the retrying; else the last attempt does, and its error is told. -/
theorem retry_foreseen {S : Type} {p : Prospect ε α} {interrupt : Signal}
    {operation : Routine (Except ε α)} {answers : Answering service S} {course : S → Course}
    (foreseen : p.Foreseen interrupt operation answers course) (config : RetryConfig) {s : S}
    (fresh : course s = .start) :
    (∃ r t, Runs answers (retry config interrupt operation) s r t) ∧
    ∀ r t, Runs answers (retry config interrupt operation) s r t →
      (∀ k, p.Wins config k →
        ∃ a, p.outcome k = .ok a ∧ r = .ok a ∧ course t = p.called config k ∧
          (course t).calls.length = k + 1) ∧
      ((¬ ∃ k, p.Wins config k) → ∀ m, IsLeast {m | p.BreaksOff config m} m →
        r = .error .cancelled ∧
        ∃ time, p.cutAt? config m = some time ∧ course t = p.brokenOff config m time ∧
          (course t).calls.length = m + 1) ∧
      ((¬ ∃ k, p.Wins config k) → (∀ m, ¬ p.BreaksOff config m) →
        ∃ e, p.outcome (config.attempts - 1) = .error e ∧
          r = .error (.maxAttemptsReached config.attempts e) ∧
          course t = p.called config (config.attempts - 1) ∧
          (course t).calls.length = config.attempts) ∧
      (course t).Contiguous ∧
      (course t).calls = (List.range (course t).calls.length).map (p.callAt config) ∧
      (course t).delays = (List.range (course t).delays.length).map config.delay ∧
      1 ≤ (course t).calls.length ∧ (course t).calls.length ≤ config.attempts ∧
      (course t).delays.length ≤ (course t).calls.length ∧
      (course t).delays.length < config.attempts ∧
      (r = .error .cancelled → (course t).calls.length < config.attempts) := by
  refine ⟨foreseen.exists_runs _ _ _ s, fun r t ran => ?_⟩
  have finishes := foreseen.retry_finishes fresh ran
  refine ⟨fun k wins => ?_, fun lost m first => ?_, fun lost whole => ?_, finishes.course⟩
  · obtain ⟨a, succeeds, result, after⟩ := finishes.of_wins wins
    exact ⟨a, succeeds, result, after, by simp [after, calls_called]⟩
  · obtain ⟨result, time, cut, after⟩ := finishes.of_breaksOff lost first
    exact ⟨result, time, cut, after, by simp [after, calls_brokenOff]⟩
  · obtain ⟨e, fails, result, after⟩ := finishes.of_lost lost whole
    have positive : 1 ≤ config.attempts := Nat.le_max_right _ _
    refine ⟨e, fails, result, after, ?_⟩
    rw [after, calls_called, List.length_map, List.length_range]
    omega

/-! ## A queue that takes its time -/

/-- A queue that answers pushes as foreseen, and nothing else. -/
def pushing (p : Prospect QueueError QueueJobId) : Answering service Course := fun c q =>
  match q with
  | .queue (.push _) => fun answer d => (answer, d) = p.call c
  | .sleep delay (some _) => fun isCut d => (isCut, d) = p.wait delay c
  | _ => fun _ _ => False

theorem foreseen_pushing (p : Prospect QueueError QueueJobId) (interrupt : Signal)
    (job : QueueJob) :
    p.Foreseen interrupt (Service.queue (.push job)) p.pushing id where
  call_ends s := ⟨_, _, .ask rfl (.done _ _)⟩
  call ran := by
    obtain ⟨_, _, answered, ended⟩ := runs_ask_iff.mp ran
    obtain ⟨rfl, rfl⟩ := runs_done_iff.mp ended
    exact answered
  wait_ends s delay := ⟨_, _, rfl⟩
  wait answered := answered

/-- Pushes of which the second one succeeds, each in half a second, with a signal that may be
given. -/
def secondPush (given : Option Int) : Prospect QueueError QueueJobId where
  outcome n := if n = 1 then .ok ⟨7⟩ else .error (.backend "busy")
  lasts _ := 500000000
  takes _ delay := delay.nanoseconds.toNat
  given := given
  yields _ := true

theorem succeeds_secondPush_iff {given : Option Int} {n : Nat} :
    (∃ id, (secondPush given).outcome n = .ok id) ↔ n = 1 := by
  by_cases second : n = 1 <;> simp [secondPush, second]

theorem secondPush_wins (given : Option Int)
    (whole : (secondPush given).cutAt? .default 0 = none) :
    (secondPush given).Wins .default 1 := by
  refine ⟨⟨⟨⟨7⟩, rfl⟩, fun n succeeds => ?_⟩, by decide, fun m before breaksOff => ?_⟩
  · rw [succeeds_secondPush_iff.mp succeeds]
  · obtain rfl : m = 0 := by omega
    rw [BreaksOff, whole] at breaksOff
    cases breaksOff.2.2

/-- A signal that is given while the second push succeeds changes nothing, one that is given before
ends the first wait, and with one attempt there is no wait. -/
theorem retry_foreseen_secondPush :
    let push := Service.queue (.push (.create (.ofMilliseconds 0) ⟨"run"⟩ ⟨⟨1⟩, "", "", []⟩))
    let once : RetryConfig := { RetryConfig.default with maxAttempts := 0 }
    (∃ t, Runs (secondPush (some 1700000000)).pushing (retry .default .workersStop push) .start
      (.ok ⟨7⟩) t ∧ t.happenings = [.call 0 500000000,
        .wait (.ofSeconds 1) 500000000 1500000000 false, .call 1500000000 2000000000]) ∧
    (∃ t, Runs (secondPush (some 900000000)).pushing (retry .default .workersStop push) .start
      (.error .cancelled) t ∧
        t.happenings = [.call 0 500000000, .wait (.ofSeconds 1) 500000000 900000000 true]) ∧
    ∃ t, Runs (secondPush (some 0)).pushing (retry once .workersStop push) .start
      (.error (.maxAttemptsReached 1 (.backend "busy"))) t ∧
        t.happenings = [.call 0 500000000] := by
  intro push once
  have foreseen (given : Option Int) := (secondPush given).foreseen_pushing .workersStop
    (.create (.ofMilliseconds 0) ⟨"run"⟩ ⟨⟨1⟩, "", "", []⟩)
  refine ⟨?_, ?_, ?_⟩
  · obtain ⟨⟨r, t, ran⟩, all⟩ := retry_foreseen (foreseen (some 1700000000)) .default rfl
    obtain ⟨id, succeeds, rfl, after, -⟩ := (all r t ran).1 1 (secondPush_wins _ (by decide))
    cases succeeds
    obtain rfl : t = _ := after
    exact ⟨_, ran, by decide⟩
  · obtain ⟨⟨r, t, ran⟩, all⟩ := retry_foreseen (foreseen (some 900000000)) .default rfl
    have breaksOff : (secondPush (some 900000000)).BreaksOff .default 0 :=
      ⟨by decide, ⟨_, rfl⟩, by decide⟩
    have lost : ¬ ∃ k, (secondPush (some 900000000)).Wins .default k := by
      rintro ⟨k, ⟨succeeds, -⟩, -, unbroken⟩
      obtain rfl : k = 1 := succeeds_secondPush_iff.mp succeeds
      exact unbroken 0 Nat.one_pos breaksOff
    obtain ⟨rfl, time, cut, after, -⟩ :=
      (all r t ran).2.1 lost 0 ⟨breaksOff, fun _ _ => Nat.zero_le _⟩
    obtain rfl : 900000000 = time := Option.some.inj cut
    obtain rfl : t = _ := after
    exact ⟨_, ran, by decide⟩
  · obtain ⟨⟨r, t, ran⟩, all⟩ := retry_foreseen (foreseen (some 0)) once rfl
    have lost : ¬ ∃ k, (secondPush (some 0)).Wins once k := by
      rintro ⟨k, ⟨succeeds, -⟩, within, -⟩
      obtain rfl : k = 1 := succeeds_secondPush_iff.mp succeeds
      exact Nat.lt_irrefl 1 within
    have whole (m : Nat) : ¬ (secondPush (some 0)).BreaksOff once m := fun breaksOff =>
      Nat.not_lt_zero m (Nat.lt_of_succ_lt_succ breaksOff.1)
    obtain ⟨e, fails, rfl, after, -⟩ := (all r t ran).2.2.1 lost whole
    cases fails
    obtain rfl : t = _ := after
    exact ⟨_, ran, by decide⟩

end Prospect

end EventFlow
