import EventFlow.Proofs.Store.Listing
import EventFlow.Proofs.Timed
import EventFlow.RateLimit.Check

/-!
# What the check of rate limits finds

A rule denies a request when its flow has had as many executions as it allows since its
window began.  A request is allowed when no rule denies it at the time at which that
rule is checked.
-/

namespace EventFlow

/-- An instant a duration earlier that exists is what the arithmetic without bounds
gives. -/
theorem Instant.eq_plus_of_minus? {t start : Instant} {d : Duration}
    (begins : t.minus? d = some start) : start = t.plus ⟨-d.nanoseconds⟩ := by
  unfold minus? at begins
  dsimp only at begins
  split at begins <;> cases begins
  rfl

namespace RateLimit

open Program

variable {rule : RateLimit} {s : Store} {flowId : FlowId} {now : Instant}

/-! ## One rule -/

/-- What a rule decides at a time. -/
def decideAt (rule : RateLimit) (s : Store) (flowId : FlowId) (now : Instant) :
    Except RateLimitError RateLimitResult :=
  match now.minus? rule.window with
  | none => .error (.windowOutOfRange rule.id)
  | some start =>
    rule.decide now (((s.listExecutions (rule.flowId.getD flowId) scanLimit).map
      (·.createdAt)).takeWhile fun created => start ≤ created)

/-- A rule denies a request at a time. -/
def Denies (rule : RateLimit) (s : Store) (flowId : FlowId) (now : Instant) : Prop :=
  ∃ retryAfter resetsAt, rule.decideAt s flowId now = .ok (.exceeded retryAfter resetsAt)

/-- When the window of a rule that ends at a time begins. -/
def start (rule : RateLimit) (now : Instant) : Instant := now.plus ⟨-rule.window.nanoseconds⟩

/-- How many executions count for a rule at a time. -/
def spent (rule : RateLimit) (s : Store) (flowId : FlowId) (now : Instant) : Nat :=
  s.createdSince (rule.flowId.getD flowId) (rule.start now)

/-- A rule that applies to a flow counts the executions of that flow. -/
theorem flowId_getD_of_appliesTo {nodeId : String}
    (applies : rule.appliesTo flowId nodeId = true) : rule.flowId.getD flowId = flowId := by
  have flow := ((Bool.and_eq_true _ _).mp applies).1
  cases bound : rule.flowId with
  | none => rfl
  | some other => simpa [bound] using flow

/-- A time is so far from the bounds of time that a window fits in on either side. -/
structure Fits (rule : RateLimit) (now : Instant) : Prop where
  before : (now.minus? rule.window).isSome
  behind : (now.plus? rule.window).isSome

instance (rule : RateLimit) (now : Instant) : Decidable (rule.Fits now) :=
  decidable_of_iff ((now.minus? rule.window).isSome ∧ (now.plus? rule.window).isSome)
    ⟨fun fits => ⟨fits.1, fits.2⟩, fun fits => ⟨fits.before, fits.behind⟩⟩

/-- A rule that can be evaluated at a time decides by what counts for it then. -/
theorem decideAt_of_minus? (s : Store) (flowId : FlowId) {start : Instant}
    (begins : now.minus? rule.window = some start) :
    ∃ inWindow, rule.decideAt s flowId now = rule.decide now inWindow ∧
      inWindow.length = min scanLimit (rule.spent s flowId now) ∧
      ∀ created ∈ inWindow, created ∈ s.createdAts (rule.flowId.getD flowId) := by
  rw [decideAt, begins]
  refine ⟨_, rfl, ?_, ?_⟩
  · rw [Store.length_takeWhile_listExecutions, Instant.eq_plus_of_minus? begins]
    rfl
  · intro created createdMem
    exact Store.mem_createdAts_of_mem_listExecutions
      ((List.takeWhile_sublist _).subset createdMem)

/-- A rule that denies a request is full. -/
theorem Denies.le_spent (denies : rule.Denies s flowId now) :
    rule.limitValue ≤ rule.spent s flowId now := by
  rcases denies with ⟨retryAfter, resetsAt, decided⟩
  cases begins : now.minus? rule.window with
  | none => simp [decideAt, begins] at decided
  | some start =>
      rcases decideAt_of_minus? s flowId begins with ⟨inWindow, same, length, _⟩
      rw [same] at decided
      unfold RateLimit.decide at decided
      split at decided
      · cases decided
      · omega

/-- A rule that is full denies a request, if it does not look at fewer executions than it
allows and no time that matters is out of range. -/
theorem denies_of_le_spent (scanned : rule.limitValue ≤ scanLimit)
    (fits : rule.Fits now)
    (fit : ∀ created ∈ s.createdAts (rule.flowId.getD flowId), rule.Fits created)
    (full : rule.limitValue ≤ rule.spent s flowId now) : rule.Denies s flowId now := by
  rcases Option.isSome_iff_exists.mp fits.before with ⟨start, begins⟩
  rcases decideAt_of_minus? s flowId begins with ⟨inWindow, same, length, among⟩
  have notBelow : ¬ inWindow.length < rule.limitValue := by omega
  have last : ∃ resetsAt, ((if rule.limitValue = 0 then some now
      else inWindow[rule.limitValue - 1]?).bind fun t => t.plus? rule.window) = some resetsAt := by
    by_cases zero : rule.limitValue = 0
    · simpa [zero] using Option.isSome_iff_exists.mp fits.behind
    · have inRange : rule.limitValue - 1 < inWindow.length := by omega
      have createdMem : inWindow[rule.limitValue - 1] ∈ inWindow := List.getElem_mem inRange
      simpa [zero, inRange] using
        Option.isSome_iff_exists.mp (fit _ (among _ createdMem)).behind
  rcases last with ⟨resetsAt, reset⟩
  refine ⟨(resetsAt.since now).max .zero, resetsAt, ?_⟩
  rw [same, RateLimit.decide, if_neg notBelow]
  simp only [reset]

/-! ## All rules -/

section Runs

variable {shows : Instant → Prop} {s t : Timed} {rules : List RateLimit}

/-- The check of a rule reads the clock and decides by the store. -/
theorem runs_check {r : Except RateLimitError RateLimitResult}
    (ran : Runs (timing shows) (rule.check flowId) s r t) :
    ∃ now, s.clock ≤ now ∧ shows now ∧ t = ⟨s.state, now⟩ ∧
      r = rule.decideAt s.state.store flowId now := by
  simp only [check, Service.now_bind] at ran
  rcases timing_now_iff.mp ran with ⟨now, later, shown, ran⟩
  refine ⟨now, later, shown, ?_⟩
  cases begins : now.minus? rule.window with
  | none =>
      simp only [begins] at ran
      rcases runs_done_iff.mp ran with ⟨rfl, rfl⟩
      exact ⟨rfl, by rw [decideAt, begins]⟩
  | some start =>
      simp only [begins, Service.store_bind] at ran
      rcases timing_store_iff.mp ran with ⟨_, ran⟩
      simp only [Store.answer] at ran
      rcases runs_done_iff.mp ran with ⟨rfl, rfl⟩
      exact ⟨rfl, by rw [decideAt, begins]⟩

/-- What a check of rules has found: at the time of its check no rule denied the request,
or one did. -/
def Found (shows : Instant → Prop) (rules : List RateLimit) (flowId : FlowId) (s t : Timed) :
    RateLimitResult → Prop
  | .allowed _ => ∀ rule ∈ rules, ∃ now, s.Passes shows t now ∧
      ¬ rule.Denies s.state.store flowId now
  | .exceeded _ _ => ∃ rule ∈ rules, ∃ now, s.Passes shows t now ∧
      rule.Denies s.state.store flowId now

/-- A rule that does not deny the request leaves it to those behind it. -/
theorem Found.cons {now : Instant} {r : RateLimitResult} (passes : s.Passes shows t now)
    (allows : ¬ rule.Denies s.state.store flowId now)
    (found : Found shows rules flowId ⟨s.state, now⟩ t r) :
    Found shows (rule :: rules) flowId s t r := by
  cases r with
  | allowed remaining =>
      intro other otherMem
      rcases List.mem_cons.mp otherMem with rfl | otherMem
      · exact ⟨now, passes, allows⟩
      · rcases found other otherMem with ⟨time, later, allowed⟩
        exact ⟨time, later.widen passes.later (Instant.le_refl _), allowed⟩
  | exceeded retryAfter resetsAt =>
      rcases found with ⟨other, otherMem, time, later, denies⟩
      exact ⟨other, List.mem_cons_of_mem _ otherMem, time,
        later.widen passes.later (Instant.le_refl _), denies⟩

/-- The check of rules changes nothing, and one that denies a request ends it. -/
theorem runs_checkAll {remaining : Option Nat} {r : RateLimitResult}
    (ran : Runs (timing shows) (checkAll flowId rules remaining) s r t) :
    t.state = s.state ∧ Found shows rules flowId s t r := by
  induction rules generalizing s remaining with
  | nil =>
      rcases runs_done_iff.mp ran with ⟨rfl, rfl⟩
      exact ⟨rfl, by simp [Found]⟩
  | cons rule rest ih =>
      rcases runs_bind_iff.mp ran with ⟨decision, u, checked, ran⟩
      have clock_le := clock_le_of_runs ran
      rcases runs_check checked with ⟨now, later, shown, rfl, decided⟩
      have passes : s.Passes shows t now := ⟨later, clock_le, shown⟩
      have goesOn {left : Option Nat}
          (ran : Runs (timing shows) (checkAll flowId rest left) ⟨s.state, now⟩ r t)
          (allows : ¬ rule.Denies s.state.store flowId now) :
          t.state = s.state ∧ Found shows (rule :: rest) flowId s t r :=
        ⟨(ih ran).1, (ih ran).2.cons passes allows⟩
      match decision, decided with
      | .ok (.allowed (some left)), decided =>
          exact goesOn ran fun ⟨_, _, denies⟩ => by simp [← decided] at denies
      | .ok (.allowed none), decided =>
          exact goesOn ran fun ⟨_, _, denies⟩ => by simp [← decided] at denies
      | .error e, decided =>
          exact goesOn ran fun ⟨_, _, denies⟩ => by simp [← decided] at denies
      | .ok (.exceeded retryAfter resetsAt), decided =>
          rcases runs_done_iff.mp ran with ⟨rfl, rfl⟩
          exact ⟨rfl, rule, List.mem_cons_self, now, passes, retryAfter, resetsAt, decided.symm⟩

/-- The check of a flow is that of the rules that apply to it. -/
theorem runs_checkFlow {nodeId : String} {r : Except RateLimitError RateLimitResult}
    (ran : Runs (timing shows) (checkFlow flowId nodeId) s r t) :
    t.state = s.state ∧ ∃ result, r = .ok result ∧
      Found shows (s.state.store.listRateLimits flowId nodeId) flowId s t result := by
  simp only [checkFlow, Service.store_bind] at ran
  rcases timing_store_iff.mp ran with ⟨_, ran⟩
  simp only [Store.answer] at ran
  rcases runs_bind_iff.mp ran with ⟨result, u, checked, ended⟩
  rcases runs_done_iff.mp ended with ⟨rfl, rfl⟩
  rcases runs_checkAll checked with ⟨same, found⟩
  exact ⟨same, result, rfl, found⟩

end Runs

end RateLimit

end EventFlow
