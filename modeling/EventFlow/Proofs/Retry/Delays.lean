import EventFlow.Proofs.Retry.Course
import Mathlib.Algebra.Group.Action.Defs
import Mathlib.Algebra.Order.BigOperators.Group.List
import Mathlib.Algebra.Order.Ring.Int
import Mathlib.Algebra.Order.Ring.Nat

/-!
# How long a retried operation waits

The wait behind a wait is never longer than the longest that is configured, whatever the factor.
But the first wait is as long as configured for itself, even where this is longer.
-/

namespace EventFlow

open Program

namespace RetryConfig

variable (config : RetryConfig)

/-- A wait behind a wait is at most the longest. -/
theorem nextDelay_le (delay : Duration) :
    (config.nextDelay delay).nanoseconds ≤ config.maxDelay.nanoseconds := by
  rw [nextDelay, Duration.min]
  split
  · assumption
  · exact Int.le_refl _

theorem delay_succ_le (n : Nat) :
    (config.delay (n + 1)).nanoseconds ≤ config.maxDelay.nanoseconds :=
  config.nextDelay_le (config.delay n)

theorem map_delay_range_succ (n : Nat) :
    (List.range (n + 1)).map config.delay =
      config.initialDelay :: (List.range n).map fun k => config.delay (k + 1) := by
  rw [List.range_succ_eq_map, List.map_cons, List.map_map]
  rfl

theorem eq_of_mem_head?_delays (n : Nat) :
    ∀ first ∈ ((List.range n).map config.delay).head?, first = config.initialDelay := by
  cases n with
  | zero => nofun
  | succ n =>
      rw [map_delay_range_succ, List.head?_cons]
      rintro first ⟨⟩
      rfl

theorem forall_mem_tail_delays (n : Nat) :
    ∀ delay ∈ ((List.range n).map config.delay).tail,
      delay.nanoseconds ≤ config.maxDelay.nanoseconds := by
  cases n with
  | zero => nofun
  | succ n =>
      rw [map_delay_range_succ, List.tail_cons, List.forall_mem_map]
      exact fun k _ => config.delay_succ_le k

/-- The first of some waits alone decides whether all are at most the longest. -/
theorem forall_mem_delays_iff (n : Nat) :
    (∀ delay ∈ (List.range n).map config.delay,
        delay.nanoseconds ≤ config.maxDelay.nanoseconds) ↔
      n = 0 ∨ config.initialDelay.nanoseconds ≤ config.maxDelay.nanoseconds := by
  have later := config.forall_mem_tail_delays n
  cases n with
  | zero => simp
  | succ n =>
      rw [map_delay_range_succ, List.tail_cons] at later
      rw [map_delay_range_succ, List.forall_mem_cons, and_iff_left later]
      simp

/-- Waits that are at most the longest are together at most as many times the longest. -/
theorem sum_le_of_forall_le {delays : List Duration}
    (bounded : ∀ delay ∈ delays, delay.nanoseconds ≤ config.maxDelay.nanoseconds) :
    (delays.map fun delay => delay.nanoseconds.toNat).sum ≤
      delays.length * config.maxDelay.nanoseconds.toNat := by
  have each : ∀ n ∈ delays.map fun delay => delay.nanoseconds.toNat,
      n ≤ config.maxDelay.nanoseconds.toNat := by
    rw [List.forall_mem_map]
    exact fun delay delayMem => Int.toNat_le_toNat (bounded delay delayMem)
  have sum := List.sum_le_card_nsmul _ _ each
  rwa [List.length_map, smul_eq_mul] at sum

theorem sum_delays_le (n : Nat) :
    (((List.range n).map config.delay).map fun delay => delay.nanoseconds.toNat).sum ≤
      config.initialDelay.nanoseconds.toNat + (n - 1) * config.maxDelay.nanoseconds.toNat := by
  have later := config.sum_le_of_forall_le (config.forall_mem_tail_delays n)
  rw [List.length_tail, List.length_map, List.length_range] at later
  cases n with
  | zero => exact Nat.zero_le _
  | succ n =>
      rw [map_delay_range_succ, List.tail_cons] at later
      rw [map_delay_range_succ, List.map_cons, List.sum_cons]
      exact Nat.add_le_add_left later _

end RetryConfig

namespace Course

/-- How many nanoseconds the waits were meant to take together. -/
def meant (c : Course) : Nat :=
  (c.delays.map fun delay => delay.nanoseconds.toNat).sum

/-- How many they have taken. -/
def waited (c : Course) : Int :=
  (c.happenings.map fun
    | .call _ _ => 0
    | .wait _ start finish _ => finish - start).sum

variable (c : Course) (start finish : Int) (delay : Duration) (isCut : Bool)

@[simp]
theorem meant_next_call : (c.next (.call start finish)).meant = c.meant := by
  rw [meant, delays_next_call, meant]

@[simp]
theorem meant_next_wait :
    (c.next (.wait delay start finish isCut)).meant = c.meant + delay.nanoseconds.toNat := by
  simp [meant]

@[simp]
theorem waited_next_call : (c.next (.call start finish)).waited = c.waited := by
  simp [waited, next]

@[simp]
theorem waited_next_wait :
    (c.next (.wait delay start finish isCut)).waited = c.waited + (finish - start) := by
  simp [waited, next]

end Course

namespace Prospect

variable {ε α : Type} {p : Prospect ε α} {config : RetryConfig}

/-- No wait takes longer than it is meant to. -/
def Punctual (p : Prospect ε α) : Prop :=
  ∀ n delay, p.takes n delay ≤ delay.nanoseconds.toNat

/-- A wait is not cut short before it starts, and not when it is over. -/
theorem cut?_between {n : Nat} {start finish time : Int} (forth : start ≤ finish)
    (cut : p.cut? n start finish = some time) : start ≤ time ∧ time ≤ finish := by
  obtain ⟨given, -, cut⟩ := Option.bind_eq_some_iff.mp cut
  split at cut
  · obtain rfl := Option.some.inj cut
    exact ⟨Int.le_refl _, forth⟩
  · split at cut
    · obtain rfl := Option.some.inj cut
      omega
    · cases cut

theorem waited_unbroken_le (punctual : p.Punctual) (n : Nat) :
    (p.unbroken config n).waited ≤ (p.unbroken config n).meant := by
  induction n with
  | zero => exact Int.le_refl _
  | succ n ih =>
      have takes := punctual n (config.delay n)
      rw [unbroken, callAt, Course.waited_next_wait, Course.waited_next_call,
        Course.meant_next_wait, Course.meant_next_call, begins_succ]
      omega

theorem Finishes.waited_le {r : Except (RetryError ε) α} {c : Course}
    (finishes : p.Finishes config r c) (punctual : p.Punctual) : c.waited ≤ c.meant := by
  have called (n : Nat) : (p.called config n).waited ≤ (p.called config n).meant := by
    rw [Prospect.called, callAt, Course.waited_next_call, Course.meant_next_call]
    exact waited_unbroken_le punctual n
  cases finishes with
  | @succeeded n _ _ _ _ => exact called n
  | @cancelled n _ time _ _ _ cut =>
      have takes := punctual n (config.delay n)
      have before := called n
      have forth : p.ends config n ≤ p.begins config (n + 1) := by
        rw [begins_succ]
        omega
      have between := cut?_between forth cut
      rw [begins_succ] at between
      rw [brokenOff, Course.waited_next_wait, Course.meant_next_wait]
      omega
  | @exhausted n _ _ _ _ => exact called n

/-- A retried operation waits as long as configured behind the first failure, and at most as long
as the longest wait behind each other one, whatever the factor.  So all of its waits are at most
the longest if the first one is, and together they are meant to take at most the first wait and
the longest one for each failure after the first that is not the last.  They take no more than
that where no wait takes longer than it is meant to. -/
theorem retry_waits_bounded {S : Type} {interrupt : Signal} {operation : Routine (Except ε α)}
    {answers : Answering service S} {course : S → Course}
    (foreseen : p.Foreseen interrupt operation answers course) (config : RetryConfig) {s t : S}
    {r : Except (RetryError ε) α} (fresh : course s = .start)
    (ran : Runs answers (retry config interrupt operation) s r t) :
    let longest := config.maxDelay.nanoseconds
    (∀ first ∈ (course t).delays.head?, first = config.initialDelay) ∧
    (∀ delay ∈ (course t).delays.tail, delay.nanoseconds ≤ longest) ∧
    (course t).delays.length ≤ config.attempts - 1 ∧
    ((∀ delay ∈ (course t).delays, delay.nanoseconds ≤ longest) ↔
      (course t).delays.length = 0 ∨ config.initialDelay.nanoseconds ≤ longest) ∧
    (course t).meant ≤
      config.initialDelay.nanoseconds.toNat + (config.attempts - 2) * longest.toNat ∧
    (config.initialDelay.nanoseconds ≤ longest →
      (course t).meant ≤ (config.attempts - 1) * longest.toNat) ∧
    (p.Punctual → (course t).waited ≤ (course t).meant) := by
  intro longest
  have finishes := foreseen.retry_finishes fresh ran
  obtain ⟨-, -, grow, -, -, -, few, -⟩ := finishes.course
  obtain ⟨n, grow⟩ : ∃ n, (course t).delays = (List.range n).map config.delay := ⟨_, grow⟩
  have length : (course t).delays.length = n := by rw [grow, List.length_map, List.length_range]
  have fewer : n ≤ config.attempts - 1 := Nat.le_sub_one_of_lt (length ▸ few)
  have bounded_iff := config.forall_mem_delays_iff n
  rw [length, Course.meant, grow]
  refine ⟨?_, ?_, fewer, bounded_iff, ?_, fun short => ?_, fun punctual => ?_⟩
  · exact config.eq_of_mem_head?_delays n
  · exact config.forall_mem_tail_delays n
  · calc (((List.range n).map config.delay).map fun delay => delay.nanoseconds.toNat).sum
        ≤ config.initialDelay.nanoseconds.toNat + (n - 1) * longest.toNat := config.sum_delays_le n
      _ ≤ _ := Nat.add_le_add_left (Nat.mul_le_mul_right _ (by omega)) _
  · have sum := config.sum_le_of_forall_le (bounded_iff.mpr (.inr short))
    rw [List.length_map, List.length_range] at sum
    exact sum.trans (Nat.mul_le_mul_right _ fewer)
  · rw [← grow]
    exact finishes.waited_le punctual

/-- Two attempts, with a first wait of ten seconds although a second is the longest. -/
def slowStart : RetryConfig :=
  { RetryConfig.default with
    maxAttempts := 2, initialDelay := .ofSeconds 10, maxDelay := .ofSeconds 1 }

/-- A push that is tried again. -/
def retriedPush (config : RetryConfig) : Routine (Except (RetryError QueueError) QueueJobId) :=
  retry config .workersStop
    (Service.queue (.push (.create (.ofMilliseconds 0) ⟨"run"⟩ ⟨⟨1⟩, "", "", []⟩)))

/-- With the second attempt after ten seconds. -/
def slowCourse : Course :=
  ⟨11000000000, [.call 0 500000000, .wait (.ofSeconds 10) 500000000 10500000000 false,
    .call 10500000000 11000000000]⟩

theorem runs_slowStart :
    Runs (secondPush none).pushing (retriedPush slowStart) .start (.ok ⟨7⟩) slowCourse :=
  runs_retryFrom_succ_iff.mpr (.inr ⟨_, _, .ask rfl (.done _ _), .inr ⟨_, rfl,
    runs_retryFrom_zero_iff.mpr (.inl ⟨_, .ask rfl (.done _ _), rfl⟩)⟩⟩)

/-- The wait of ten seconds is as long as the first wait is to be, but longer than the longest;
with the default the first wait is short enough. -/
theorem retry_waits_bounded_slowStart :
    Runs (secondPush none).pushing (retriedPush slowStart) .start (.ok ⟨7⟩) slowCourse ∧
    slowCourse.waited ≤ slowCourse.meant ∧ slowCourse.meant ≤ 10000000000 ∧
    (¬ ∀ delay ∈ slowCourse.delays, delay.nanoseconds ≤ slowStart.maxDelay.nanoseconds) ∧
    ∃ r t, Runs (secondPush none).pushing (retriedPush .default) .start r t ∧
      t.meant ≤ 120000000000 := by
  have foreseen := (secondPush none).foreseen_pushing .workersStop
    (.create (.ofMilliseconds 0) ⟨"run"⟩ ⟨⟨1⟩, "", "", []⟩)
  have punctual : (secondPush none).Punctual := fun _ _ => Nat.le_refl _
  obtain ⟨-, -, -, bounded_iff, meant, -, waited⟩ :=
    retry_waits_bounded foreseen slowStart rfl runs_slowStart
  have beyond : ¬ ∀ delay ∈ slowCourse.delays,
      delay.nanoseconds ≤ slowStart.maxDelay.nanoseconds := mt bounded_iff.mp (by decide)
  obtain ⟨r, t, ran⟩ := foreseen.exists_runs (2 : Nat) 1 (.ofSeconds 1) .start
  obtain ⟨-, -, -, -, -, short, -⟩ := retry_waits_bounded foreseen .default rfl ran
  exact ⟨runs_slowStart, waited punctual, meant, beyond, r, t, ran, short (by decide)⟩

/-- The longest wait bounds neither each wait nor all of them together. -/
theorem slowStart_waits_beyond_longest :
    ∃ r t, Runs (secondPush none).pushing (retriedPush slowStart) .start r t ∧
      (∃ delay ∈ t.delays, slowStart.maxDelay.nanoseconds < delay.nanoseconds) ∧
      (slowStart.attempts - 1) * slowStart.maxDelay.nanoseconds < t.waited :=
  ⟨_, _, runs_slowStart, ⟨_, List.mem_singleton_self _, by decide⟩, by decide⟩

end Prospect

end EventFlow
