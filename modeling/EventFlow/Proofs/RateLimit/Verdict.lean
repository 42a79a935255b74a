import EventFlow.Proofs.RateLimit.Check

/-!
# The verdict of rate limits

The check of a rule reads a listing of the newest executions and stops at the first that is
older than its window.  It finds what counting all executions finds: a rule is full when as
many executions as it allows were created since its window began.  Of the rules that apply
the first that is full refuses a request; if there is none, the least that any of them leaves
remains.  A rule is passed over when it needs a time that does not exist.
-/

namespace EventFlow

open Program

/-- How a request is refused at a time until another. -/
def RateLimitResult.refused (now resetsAt : Instant) : RateLimitResult :=
  .exceeded ((resetsAt.since now).max .zero) resetsAt

namespace RateLimit

/-! ## One rule -/

/-- How many executions are counted for a rule at a time: all that were created since its
window began, but no more than are looked at. -/
def counted (rule : RateLimit) (s : Store) (flowId : FlowId) (now : Instant) : Nat :=
  min scanLimit (rule.spent s flowId now)

/-- When a rule that is full has room again, if that time exists: when the oldest of as many
of the newest executions as it allows leaves its window.  A rule that allows none counts from
now. -/
def reset? (rule : RateLimit) (s : Store) (flowId : FlowId) (now : Instant) : Option Instant :=
  let last := if rule.limitValue = 0 then some now
    else (s.newest (rule.flowId.getD flowId))[rule.limitValue - 1]?
  last.bind fun t => t.plus? rule.window

/-- A rule can be evaluated at a time: its window has a beginning, and if it is full there is
a time at which it has room again. -/
def Evaluable (rule : RateLimit) (s : Store) (flowId : FlowId) (now : Instant) : Prop :=
  (now.minus? rule.window).isSome = true ∧
    (rule.limitValue ≤ rule.counted s flowId now → (rule.reset? s flowId now).isSome = true)

instance (rule : RateLimit) (s : Store) (flowId : FlowId) (now : Instant) :
    Decidable (rule.Evaluable s flowId now) :=
  inferInstanceAs (Decidable (_ ∧ _))

/-- Until when a rule refuses a request at a time, if it can be evaluated and is full. -/
def refusesUntil? (rule : RateLimit) (s : Store) (flowId : FlowId) (now : Instant) :
    Option Instant :=
  if rule.Evaluable s flowId now ∧ rule.limitValue ≤ rule.counted s flowId now then
    rule.reset? s flowId now
  else none

/-- What a rule leaves at a time, if it can be evaluated and is not full. -/
def left? (rule : RateLimit) (s : Store) (flowId : FlowId) (now : Instant) : Option Nat :=
  if rule.Evaluable s flowId now ∧ rule.counted s flowId now < rule.limitValue then
    some (rule.limitValue - rule.counted s flowId now)
  else none

/-- The times of creation that the check of a rule gathers. -/
def gathered (rule : RateLimit) (s : Store) (flowId : FlowId) (now : Instant) : List Instant :=
  ((s.listExecutions (rule.flowId.getD flowId) scanLimit).map (·.createdAt)).takeWhile
    fun created => rule.start now ≤ created

variable {rule : RateLimit} {s : Store} {flowId : FlowId} {now : Instant}

@[simp]
theorem length_gathered (rule : RateLimit) (s : Store) (flowId : FlowId) (now : Instant) :
    (rule.gathered s flowId now).length = rule.counted s flowId now :=
  Store.length_takeWhile_listExecutions _ _ _ _

theorem isSome_refusesUntil?_iff :
    (rule.refusesUntil? s flowId now).isSome = true ↔
      rule.Evaluable s flowId now ∧ rule.limitValue ≤ rule.counted s flowId now := by
  rw [refusesUntil?]
  split
  · rename_i refuses
    simpa [refuses] using refuses.1.2 refuses.2
  · rename_i allows
    simp [allows]

/-- The oldest of as many of the newest executions as a full rule allows is gathered. -/
theorem getElem?_gathered (full : rule.limitValue ≤ rule.counted s flowId now)
    (some : rule.limitValue ≠ 0) :
    (rule.gathered s flowId now)[rule.limitValue - 1]? =
      (s.newest (rule.flowId.getD flowId))[rule.limitValue - 1]? := by
  have inRange : rule.limitValue - 1 < (rule.gathered s flowId now).length := by
    rw [length_gathered]
    omega
  have stands := List.getElem?_eq_getElem inRange
  rw [stands]
  exact (Store.getElem?_takeWhile_listExecutions_eq_some_iff.mp stands).2.1.symm

/-- What a rule decides with what has been gathered. -/
theorem decide_gathered (rule : RateLimit) (s : Store) (flowId : FlowId) (now : Instant) :
    rule.decide now (rule.gathered s flowId now) =
      if rule.counted s flowId now < rule.limitValue then
        .ok (.allowed (some (rule.limitValue - rule.counted s flowId now)))
      else (rule.reset? s flowId now).elim (.error (.windowOutOfRange rule.id)) fun resetsAt =>
        .ok (.refused now resetsAt) := by
  rw [RateLimit.decide, length_gathered]
  split
  · rfl
  · rename_i full
    have resets : ((if rule.limitValue = 0 then some now
        else (rule.gathered s flowId now)[rule.limitValue - 1]?).bind fun t =>
          t.plus? rule.window) = rule.reset? s flowId now := by
      rw [reset?]
      split
      · rfl
      · rename_i some
        rw [getElem?_gathered (Nat.le_of_not_lt full) some]
    simp only [resets]
    cases rule.reset? s flowId now <;> rfl

/-- A rule refuses at a time, or leaves something, or cannot be evaluated. -/
theorem decideAt_cases (rule : RateLimit) (s : Store) (flowId : FlowId) (now : Instant) :
    (∃ resetsAt, rule.refusesUntil? s flowId now = some resetsAt ∧
        rule.left? s flowId now = none ∧
        rule.decideAt s flowId now = .ok (.refused now resetsAt)) ∨
      rule.refusesUntil? s flowId now = none ∧
        ((∃ left, rule.left? s flowId now = some left ∧
            rule.decideAt s flowId now = .ok (.allowed (some left))) ∨
          rule.left? s flowId now = none ∧
            rule.decideAt s flowId now = .error (.windowOutOfRange rule.id)) := by
  cases begins : now.minus? rule.window with
  | none => simp [decideAt, refusesUntil?, left?, Evaluable, begins]
  | some start =>
      have decides : rule.decideAt s flowId now =
          rule.decide now (rule.gathered s flowId now) := by
        rw [decideAt, begins, Instant.eq_plus_of_minus? begins]
        rfl
      rw [decides, decide_gathered]
      by_cases room : rule.counted s flowId now < rule.limitValue
      · have notFull : ¬ rule.limitValue ≤ rule.counted s flowId now := by omega
        simp [refusesUntil?, left?, Evaluable, begins, room, notFull]
      · have full : rule.limitValue ≤ rule.counted s flowId now := by omega
        cases resets : rule.reset? s flowId now <;>
          simp [refusesUntil?, left?, Evaluable, begins, room, full, resets]

theorem decideAt_eq_exceeded_iff {wait : Duration} {resetsAt : Instant} :
    rule.decideAt s flowId now = .ok (.exceeded wait resetsAt) ↔
      rule.refusesUntil? s flowId now = some resetsAt ∧
        wait = (resetsAt.since now).max .zero := by
  rcases rule.decideAt_cases s flowId now with
    ⟨reset, refuses, _, decided⟩ | ⟨allows, ⟨left, _, decided⟩ | ⟨_, decided⟩⟩
  · rw [decided, refuses, RateLimitResult.refused]
    constructor
    · rintro ⟨⟩
      exact ⟨rfl, rfl⟩
    · rintro ⟨⟨⟩, rfl⟩
      rfl
  · simp [decided, allows]
  · simp [decided, allows]

theorem decideAt_eq_allowed_iff {left : Nat} :
    rule.decideAt s flowId now = .ok (.allowed (some left)) ↔
      rule.left? s flowId now = some left := by
  rcases rule.decideAt_cases s flowId now with
    ⟨reset, _, leaves, decided⟩ | ⟨_, ⟨room, leaves, decided⟩ | ⟨leaves, decided⟩⟩ <;>
    simp [decided, leaves, RateLimitResult.refused]

/-! ## All rules -/

/-- A rule with what the clock shows when it is checked. -/
structure Reading where
  rule : RateLimit
  now : Instant

/-- What rules come to at their readings, on top of what other rules have left: the first that
refuses does, and otherwise the least that any of them leaves remains. -/
def verdictOn (remaining : Option Nat) (s : Store) (flowId : FlowId) (readings : List Reading) :
    RateLimitResult :=
  (readings.findSome? fun reading => (reading.rule.refusesUntil? s flowId reading.now).map
      (.refused reading.now)).getD
    (.allowed (remaining.toList ++ readings.filterMap fun reading =>
      reading.rule.left? s flowId reading.now).min?)

/-- What rules come to at their readings. -/
def verdict (s : Store) (flowId : FlowId) (readings : List Reading) : RateLimitResult :=
  verdictOn none s flowId readings

variable {remaining : Option Nat} {readings : List Reading}

@[simp]
theorem verdictOn_nil : verdictOn remaining s flowId [] = .allowed remaining := by
  cases remaining <;> rfl

theorem verdictOn_cons_of_refusesUntil? {resetsAt : Instant}
    (refuses : rule.refusesUntil? s flowId now = some resetsAt) :
    verdictOn remaining s flowId (⟨rule, now⟩ :: readings) = .refused now resetsAt := by
  simp [verdictOn, refuses]

theorem verdictOn_cons_of_left? {left : Nat} (allows : rule.refusesUntil? s flowId now = none)
    (leaves : rule.left? s flowId now = some left) :
    verdictOn remaining s flowId (⟨rule, now⟩ :: readings) =
      verdictOn (tighter remaining left) s flowId readings := by
  cases remaining <;> simp [verdictOn, allows, leaves, tighter, List.min?]

theorem verdictOn_cons_of_passed (allows : rule.refusesUntil? s flowId now = none)
    (leaves : rule.left? s flowId now = none) :
    verdictOn remaining s flowId (⟨rule, now⟩ :: readings) =
      verdictOn remaining s flowId readings := by
  simp [verdictOn, allows, leaves]

/-- What comes behind a refusal does not matter. -/
theorem verdictOn_append_of_refused
    (refused : (verdictOn remaining s flowId readings).isAllowed = false) (others : List Reading) :
    verdictOn remaining s flowId (readings ++ others) = verdictOn remaining s flowId readings := by
  rw [verdictOn] at refused
  cases found : readings.findSome? _ with
  | none =>
      rw [found] at refused
      cases refused
  | some refusal => simp [verdictOn, List.findSome?_append, found]

/-- A refusal is that of the first reading that refuses. -/
theorem verdictOn_eq_exceeded_iff {wait : Duration} {resetsAt : Instant} :
    verdictOn remaining s flowId readings = .exceeded wait resetsAt ↔
      ∃ front rule now back, readings = front ++ ⟨rule, now⟩ :: back ∧
        (∀ other ∈ front, other.rule.refusesUntil? s flowId other.now = none) ∧
        rule.refusesUntil? s flowId now = some resetsAt ∧
        wait = (resetsAt.since now).max .zero := by
  rw [verdictOn, Option.getD_eq_iff, List.findSome?_eq_some_iff]
  constructor
  · rintro (⟨front, ⟨rule, now⟩, back, split, denied, allows⟩ | ⟨_, same⟩)
    swap
    · cases same
    rcases Option.map_eq_some_iff.mp denied with ⟨reset, refuses, same⟩
    cases same
    exact ⟨front, rule, now, back, split, by simpa using allows, refuses, rfl⟩
  · rintro ⟨front, rule, now, back, split, allows, refuses, rfl⟩
    exact .inl ⟨front, ⟨rule, now⟩, back, split, by simp [refuses, RateLimitResult.refused],
      by simpa using allows⟩

/-- A request is refused exactly if a rule that can be evaluated is full. -/
theorem isAllowed_verdict_eq_false_iff :
    (verdict s flowId readings).isAllowed = false ↔ ∃ reading ∈ readings,
      reading.rule.Evaluable s flowId reading.now ∧
        reading.rule.limitValue ≤ reading.rule.counted s flowId reading.now := by
  simp only [← isSome_refusesUntil?_iff]
  rw [verdict, verdictOn]
  cases found : readings.findSome? _ with
  | none =>
      have allows := List.findSome?_eq_none_iff.mp found
      simp only [Option.map_eq_none_iff] at allows
      simpa [RateLimitResult.isAllowed] using allows
  | some refusal =>
      rcases List.exists_of_findSome?_eq_some found with ⟨reading, readingMem, denied⟩
      rcases Option.map_eq_some_iff.mp denied with ⟨resetsAt, refuses, rfl⟩
      simp only [Option.getD_some, RateLimitResult.refused, RateLimitResult.isAllowed, true_iff]
      exact ⟨reading, readingMem, Option.isSome_iff_exists.mpr ⟨resetsAt, refuses⟩⟩

/-- Readings of the clock between two states, one after the other. -/
structure Taken (shows : Instant → Prop) (s t : Timed) (readings : List Reading) : Prop where
  passes : ∀ reading ∈ readings, s.Passes shows t reading.now
  ascending : readings.Pairwise fun first second => first.now ≤ second.now

section Runs

variable {shows : Instant → Prop} {s t : Timed} {rules : List RateLimit}

theorem Taken.nil : Taken shows s t [] := ⟨by simp, .nil⟩

theorem Taken.cons (passes : s.Passes shows t now) (taken : Taken shows ⟨s.state, now⟩ t readings) :
    Taken shows s t (⟨rule, now⟩ :: readings) where
  passes := List.forall_mem_cons.mpr ⟨passes, fun reading readingMem =>
    (taken.passes reading readingMem).widen passes.later (Instant.le_refl _)⟩
  ascending := List.pairwise_cons.mpr
    ⟨fun reading readingMem => (taken.passes reading readingMem).later, taken.ascending⟩

/-- The check of rules reads the clock for one rule after the other, for all of them unless
one refuses, and comes to the verdict of the readings. -/
structure Checks (shows : Instant → Prop) (remaining : Option Nat) (flowId : FlowId)
    (rules : List RateLimit) (s t : Timed) (r : RateLimitResult) (readings : List Reading) :
    Prop where
  taken : Taken shows s t readings
  inOrder : readings.map (·.rule) <+: rules
  all : r.isAllowed = true → readings.map (·.rule) = rules
  verdict : r = verdictOn remaining s.state.store flowId readings

theorem Checks.cons {left : Option Nat} {r : RateLimitResult} (passes : s.Passes shows t now)
    (goesOn : verdictOn remaining s.state.store flowId (⟨rule, now⟩ :: readings) =
      verdictOn left s.state.store flowId readings)
    (checks : Checks shows left flowId rules ⟨s.state, now⟩ t r readings) :
    Checks shows remaining flowId (rule :: rules) s t r (⟨rule, now⟩ :: readings) where
  taken := checks.taken.cons passes
  inOrder := by simpa using checks.inOrder
  all allowed := by simpa using checks.all allowed
  verdict := checks.verdict.trans goesOn.symm

theorem runs_checkAll_checks {r : RateLimitResult}
    (ran : Runs (timing shows) (checkAll flowId rules remaining) s r t) :
    ∃ readings, Checks shows remaining flowId rules s t r readings := by
  induction rules generalizing s remaining with
  | nil =>
      rcases runs_done_iff.mp ran with ⟨rfl, rfl⟩
      exact ⟨[], .nil, List.nil_prefix, fun _ => rfl, verdictOn_nil.symm⟩
  | cons rule rest ih =>
      rcases runs_bind_iff.mp ran with ⟨decision, u, checked, ran⟩
      have clock_le := clock_le_of_runs ran
      rcases runs_check checked with ⟨now, later, shown, rfl, rfl⟩
      have passes : s.Passes shows t now := ⟨later, clock_le, shown⟩
      rcases rule.decideAt_cases s.state.store flowId now with
        ⟨resetsAt, refuses, _, decided⟩ |
          ⟨allows, ⟨left, leaves, decided⟩ | ⟨leaves, decided⟩⟩
      · rw [decided] at ran
        rcases runs_done_iff.mp ran with ⟨rfl, rfl⟩
        exact ⟨[⟨rule, now⟩], Taken.nil.cons passes, by simp, by simp [RateLimitResult.refused,
          RateLimitResult.isAllowed], (verdictOn_cons_of_refusesUntil? refuses).symm⟩
      · rw [decided] at ran
        rcases ih ran with ⟨readings, checks⟩
        exact ⟨_, checks.cons passes (verdictOn_cons_of_left? allows leaves)⟩
      · rw [decided] at ran
        rcases ih ran with ⟨readings, checks⟩
        exact ⟨_, checks.cons passes (verdictOn_cons_of_passed allows leaves)⟩

/-- The check of a flow is that of the rules that apply to it. -/
theorem runs_checkFlow_checks {nodeId : String} {r : Except RateLimitError RateLimitResult}
    (ran : Runs (timing shows) (checkFlow flowId nodeId) s r t) :
    ∃ result readings, r = .ok result ∧ Checks shows none flowId
      (s.state.store.listRateLimits flowId nodeId) s t result readings := by
  simp only [checkFlow, Service.store_bind] at ran
  rcases timing_store_iff.mp ran with ⟨_, ran⟩
  simp only [Store.answer] at ran
  rcases runs_bind_iff.mp ran with ⟨result, u, checked, ended⟩
  rcases runs_done_iff.mp ended with ⟨rfl, rfl⟩
  rcases runs_checkAll_checks checked with ⟨readings, checks⟩
  exact ⟨result, readings, rfl, checks⟩

/-- The check of a flow comes to an end, and decides by counting all executions of the flow.
It reads the clock for the rules that apply one after the other and comes to the verdict of
their readings, whatever the clock would show for those that are left when one refuses; a
request is refused exactly if one that can be evaluated is full.  That no more than so many
executions are looked at matters for no rule that allows no more than these; a rule that allows
more never refuses; and the creation that decides when a full rule has room again is always
among those that have been gathered. -/
theorem checkFlow_countsAll (shows : Instant → Prop) (s : Timed) (flowId : FlowId)
    (nodeId : String) :
    (shows s.clock → ∃ r t, Runs (timing shows) (checkFlow flowId nodeId) s r t) ∧
    (∀ r t, Runs (timing shows) (checkFlow flowId nodeId) s r t →
      ∃ result readings rest, r = .ok result ∧ Taken shows s t readings ∧
        s.state.store.listRateLimits flowId nodeId = readings.map (·.rule) ++ rest ∧
        (result.isAllowed = true → rest = []) ∧
        ∀ unread : List Reading, unread.map (·.rule) = rest →
          result = verdict s.state.store flowId (readings ++ unread) ∧
          (result.isAllowed = false ↔ ∃ reading ∈ readings ++ unread,
            reading.rule.Evaluable s.state.store flowId reading.now ∧
            reading.rule.limitValue ≤ reading.rule.counted s.state.store flowId reading.now)) ∧
    ∀ rule ∈ s.state.store.listRateLimits flowId nodeId, ∀ now,
      rule.counted s.state.store flowId now =
        min scanLimit (s.state.store.createdSince flowId (rule.start now)) ∧
      (rule.limitValue ≤ scanLimit → (rule.limitValue ≤ rule.counted s.state.store flowId now ↔
        rule.limitValue ≤ s.state.store.createdSince flowId (rule.start now))) ∧
      (scanLimit < rule.limitValue → rule.refusesUntil? s.state.store flowId now = none) ∧
      (rule.limitValue ≠ 0 → rule.limitValue ≤ rule.counted s.state.store flowId now →
        rule.limitValue - 1 < (rule.gathered s.state.store flowId now).length) := by
  refine ⟨fun shown => ⟨_, _, runs_timedAt_of_shown shown⟩, fun r t ran => ?_,
    fun rule listed now => ?_⟩
  · rcases runs_checkFlow_checks ran with ⟨result, readings, rfl, checks⟩
    rcases checks.inOrder with ⟨rest, split⟩
    have all (allowed : result.isAllowed = true) : rest = [] := by
      simpa [← checks.all allowed] using split
    refine ⟨result, readings, rest, rfl, checks.taken, split.symm, all, ?_⟩
    rintro unread rfl
    have decided : result = verdict s.state.store flowId (readings ++ unread) := by
      cases refused : result.isAllowed with
      | true =>
          obtain rfl : unread = [] := by simpa using all refused
          rw [List.append_nil]
          exact checks.verdict
      | false =>
          rw [checks.verdict] at refused
          exact checks.verdict.trans (verdictOn_append_of_refused refused unread).symm
    refine ⟨decided, ?_⟩
    rw [decided]
    exact isAllowed_verdict_eq_false_iff
  · have own := flowId_getD_of_appliesTo (List.mem_filter.mp listed).2
    have counted_eq : rule.counted s.state.store flowId now =
        min scanLimit (s.state.store.createdSince flowId (rule.start now)) := by
      rw [counted, spent, own]
    refine ⟨counted_eq, fun within => ?_, fun beyond => ?_, fun some full => ?_⟩
    · omega
    · have notFull : ¬ rule.limitValue ≤ rule.counted s.state.store flowId now := by omega
      rw [refusesUntil?, if_neg fun refuses => notFull refuses.2]
    · rw [length_gathered]
      omega

end Runs

/-- A store with an execution of a flow, and three rules that allow one: in a second, in a
window that begins before time does, and in a minute. -/
def busyStore : Store :=
  { Store.empty with
    executions := [.create (.ofMilliseconds 5) ⟨"first"⟩ ⟨1⟩]
    rateLimits := [.forFlow ⟨1⟩ 1 .second 1, .forFlow ⟨1⟩ 200000000 .day 1,
      .forFlow ⟨1⟩ 1 .minute 1] }

/-- The check of the flow in a store while the clock stands. -/
def flowCheck (s : Store) (now : Instant) : Except RateLimitError RateLimitResult × Timed :=
  (checkFlow ⟨1⟩ "").run (timedAt now) ⟨⟨s, .empty⟩, now⟩

/-- A request is refused by the last rule, when the first has room again and the second is
passed over. -/
theorem checkFlow_countsAll_of_busy :
    (flowCheck busyStore (.ofMilliseconds 1500)).1 =
      .ok (.exceeded (.ofMilliseconds 58505) (.ofMilliseconds 60005)) ∧
    ∃ readings : List Reading, readings.map (·.rule) = busyStore.rateLimits ∧
      .exceeded (.ofMilliseconds 58505) (.ofMilliseconds 60005) =
        verdict busyStore ⟨1⟩ readings := by
  have refused : (flowCheck busyStore (.ofMilliseconds 1500)).1 =
      .ok (.exceeded (.ofMilliseconds 58505) (.ofMilliseconds 60005)) := by decide +kernel
  have ran : Runs (timing (· = .ofMilliseconds 1500)) (checkFlow ⟨1⟩ "") _
      (flowCheck busyStore (.ofMilliseconds 1500)).1
      (flowCheck busyStore (.ofMilliseconds 1500)).2 := runs_timedAt _ _ rfl
  rw [refused] at ran
  rcases (checkFlow_countsAll _ _ ⟨1⟩ "").2.1 _ _ ran with
    ⟨result, readings, rest, same, _, split, _, decided⟩
  cases same
  have unread : (rest.map (Reading.mk · (.ofMilliseconds 0))).map (·.rule) = rest := by
    simp [Function.comp_def]
  refine ⟨refused, _, ?_, (decided _ unread).1⟩
  rw [List.map_append, unread, ← split]
  decide +kernel

end RateLimit

end EventFlow
