import EventFlow.Proofs.RateLimit.Verdict

/-!
# When there is room again

A rule that refuses a request tells when it has room again: when the oldest of as many of the
newest executions as it allows leaves its window.  While no execution is created that time
stays the same, the rule refuses every request up to it and leaves something behind it.

The check of a flow tells the time of the first rule that is full and does not look at those
behind it.  So one who waits for it may be refused again, by a rule that stands behind.  Each
rule puts off once at the most.
-/

namespace EventFlow

open Program

/-! ## Times -/

namespace Instant

/-- What a clock shows: an instant that exists and does not lie in a leap second, as only
written times do. -/
structure Regular (t : Instant) : Prop where
  exist : t.representable = true
  plain : t.inLeapSecond = false

variable {t u later : Instant} {d : Duration}

theorem plus?_eq_some_iff_of_plain (plain : t.inLeapSecond = false) :
    t.plus? d = some u ↔ (t.plus d).representable = true ∧ t.plus d = u := by
  have same : t.after d = t.plus d := by simp [after, plain]
  rw [plus?, same]
  split <;> simp_all

/-- A window that begins at an existing time does so later on as well. -/
theorem isSome_minus?_of_le (begins : (t.minus? d).isSome = true) (forward : 0 ≤ d.nanoseconds)
    (le : t ≤ later) (regular : later.Regular) : (later.minus? d).isSome = true := by
  have exist := regular.exist
  simp only [minus?, Option.isSome_ite, representable, seconds, plus, regular.plain,
    Bool.and_eq_true, decide_eq_true_eq, Bool.false_eq_true, if_false] at begins exist ⊢
  rw [le_def] at le
  omega

/-- The time until an instant that does not lie in a leap second is not negative, -/
theorem since_nonneg (plain : later.inLeapSecond = false) (le : t ≤ later) :
    0 ≤ (later.since t).nanoseconds := by
  have leaps : 0 ≤ leapsBetween later t := by
    rw [leapsBetween, plain]
    split <;> simp
  rw [le_def] at le
  simp only [since]
  omega

/-- so that there is nothing to cut off. -/
theorem max_since_zero (plain : later.inLeapSecond = false) (le : t ≤ later) :
    (later.since t).max .zero = later.since t := by
  have nonneg := since_nonneg plain le
  rw [Duration.max, Duration.zero]
  split
  · rename_i notLonger
    exact congrArg Duration.mk (Int.le_antisymm notLonger nonneg).symm
  · rfl

end Instant

namespace Store

/-- No execution of a flow was created in a leap second, as none is that takes its time from a
clock. -/
def Dated (s : Store) (flowId : FlowId) : Prop :=
  ∀ created ∈ s.createdAts flowId, created.inLeapSecond = false

theorem Dated.of_perm {s t : Store} {flowId : FlowId} (dated : s.Dated flowId)
    (same : (t.createdAts flowId).Perm (s.createdAts flowId)) : t.Dated flowId :=
  fun created createdMem => dated created (same.subset createdMem)

/-- Times of creation that are the same in any order are the same when sorted. -/
theorem newest_eq_of_perm {s t : Store} {flowId : FlowId} (dated : s.Dated flowId)
    (same : (t.createdAts flowId).Perm (s.createdAts flowId)) :
    t.newest flowId = s.newest flowId := by
  have perm : (t.newest flowId).Perm (s.newest flowId) :=
    (t.newest_perm flowId).trans (same.trans (s.newest_perm flowId).symm)
  refine perm.eq_of_pairwise ?_ (t.pairwise_newest flowId) (s.pairwise_newest flowId)
  intro a b aMem bMem older newer
  have plain (created : Instant) (createdMem : created ∈ s.newest flowId) :
      created.inLeapSecond = false :=
    dated created (mem_newest_iff.mp createdMem)
  have together : a.nanoseconds = b.nanoseconds := Int.le_antisymm newer older
  have aPlain := plain a (perm.subset aMem)
  have bPlain := plain b bMem
  cases a
  cases b
  simp_all

end Store

namespace RateLimit

/-! ## One rule -/

/-- A rule allows one execution at least, and no more than are looked at. -/
structure InRange (rule : RateLimit) : Prop where
  positive : 1 ≤ rule.limitValue
  scanned : rule.limitValue ≤ scanLimit

instance (rule : RateLimit) : Decidable rule.InRange :=
  decidable_of_iff (1 ≤ rule.limitValue ∧ rule.limitValue ≤ scanLimit)
    ⟨fun within => ⟨within.1, within.2⟩, fun within => ⟨within.positive, within.scanned⟩⟩

variable {rule : RateLimit} {s t : Store} {flowId : FlowId} {now later resetsAt : Instant}

theorem window_nonneg (rule : RateLimit) : 0 ≤ rule.window.nanoseconds := by
  simp only [window, Duration.ofSeconds]
  omega

/-- A time of creation lies in the window until it is as far back as the window is long. -/
theorem start_le_iff {created : Instant} :
    rule.start now ≤ created ↔ now ≤ created.plus rule.window := by
  simp only [start, Instant.le_def, Instant.plus]
  omega

/-- When a rule has room again depends on no clock. -/
theorem reset?_eq_some_iff (inRange : rule.InRange) :
    rule.reset? s flowId now = some resetsAt ↔ ∃ created,
      (s.newest (rule.flowId.getD flowId))[rule.limitValue - 1]? = some created ∧
        created.plus? rule.window = some resetsAt := by
  have positive := inRange.positive
  rw [reset?, if_neg (by omega), Option.bind_eq_some_iff]

/-- A rule is full while the oldest of as many of the newest executions as it allows lies in
its window. -/
theorem le_counted_iff (inRange : rule.InRange) :
    rule.limitValue ≤ rule.counted s flowId now ↔ ∃ created,
      (s.newest (rule.flowId.getD flowId))[rule.limitValue - 1]? = some created ∧
        rule.start now ≤ created := by
  have positive := inRange.positive
  have scanned := inRange.scanned
  rw [← Store.lt_createdSince_iff, counted, spent]
  omega

/-- A rule refuses a request until it has room again, and no longer. -/
theorem refusesUntil?_eq_some_iff (inRange : rule.InRange)
    (dated : s.Dated (rule.flowId.getD flowId)) :
    rule.refusesUntil? s flowId now = some resetsAt ↔
      (now.minus? rule.window).isSome = true ∧ rule.reset? s flowId now = some resetsAt ∧
        now ≤ resetsAt := by
  have reaches {created : Instant}
      (stands : (s.newest (rule.flowId.getD flowId))[rule.limitValue - 1]? = some created)
      (resets : created.plus? rule.window = some resetsAt) :
      rule.start now ≤ created ↔ now ≤ resetsAt := by
    have plain := dated created (Store.mem_newest_iff.mp (List.mem_of_getElem? stands))
    rw [start_le_iff, ((Instant.plus?_eq_some_iff_of_plain plain).mp resets).2]
  rw [refusesUntil?, Option.ite_none_right_eq_some, le_counted_iff inRange]
  constructor
  · rintro ⟨⟨⟨begins, _⟩, created, stands, reached⟩, resets⟩
    rcases (reset?_eq_some_iff inRange).mp resets with ⟨other, same, passes⟩
    cases stands.symm.trans same
    exact ⟨begins, resets, (reaches stands passes).mp reached⟩
  · rintro ⟨begins, resets, early⟩
    rcases (reset?_eq_some_iff inRange).mp resets with ⟨created, stands, passes⟩
    exact ⟨⟨⟨begins, fun _ => by simp [resets]⟩, created, stands,
      (reaches stands passes).mpr early⟩, resets⟩

theorem reset?_of_refusesUntil? (refuses : rule.refusesUntil? s flowId now = some resetsAt) :
    rule.reset? s flowId now = some resetsAt := by
  rw [refusesUntil?, Option.ite_none_right_eq_some] at refuses
  exact refuses.2

/-- A rule that can be evaluated and does not refuse leaves something. -/
theorem exists_left? (begins : (now.minus? rule.window).isSome = true)
    (resets : (rule.reset? s flowId now).isSome = true)
    (allows : rule.refusesUntil? s flowId now = none) :
    ∃ left, 1 ≤ left ∧ rule.left? s flowId now = some left := by
  have evaluable : rule.Evaluable s flowId now := ⟨begins, fun _ => resets⟩
  have room : rule.counted s flowId now < rule.limitValue := by
    by_contra full
    have refuses := isSome_refusesUntil?_iff.mpr ⟨evaluable, Nat.le_of_not_lt full⟩
    simp [allows] at refuses
  exact ⟨_, Nat.sub_pos_of_lt room, if_pos ⟨evaluable, room⟩⟩

section Later

variable (inRange : rule.InRange) (dated : s.Dated (rule.flowId.getD flowId))
  (same : (t.createdAts (rule.flowId.getD flowId)).Perm (s.createdAts (rule.flowId.getD flowId)))
include inRange dated same

/-- When a rule has room again stays the same while no execution is created. -/
theorem reset?_eq_some_iff_of_perm :
    rule.reset? t flowId later = some resetsAt ↔ rule.reset? s flowId now = some resetsAt := by
  rw [reset?_eq_some_iff inRange, reset?_eq_some_iff inRange, Store.newest_eq_of_perm dated same]

/-- A rule that refuses a request later on would have refused it before. -/
theorem refusesUntil?_of_later (begins : (now.minus? rule.window).isSome = true)
    (le : now ≤ later) (refuses : rule.refusesUntil? t flowId later = some resetsAt) :
    rule.refusesUntil? s flowId now = some resetsAt ∧ later ≤ resetsAt := by
  rcases (refusesUntil?_eq_some_iff inRange (dated.of_perm same)).mp refuses with
    ⟨_, resets, early⟩
  have before := (refusesUntil?_eq_some_iff inRange dated).mpr
    ⟨begins, (reset?_eq_some_iff_of_perm inRange dated same).mp resets,
      Instant.le_trans le early⟩
  exact ⟨before, early⟩

/-- A rule that refuses a request goes on to do so until it has room again, and then leaves
something. -/
theorem goes_on_of_refusesUntil? (refuses : rule.refusesUntil? s flowId now = some resetsAt)
    (le : now ≤ later) (regular : later.Regular) :
    (later ≤ resetsAt → rule.refusesUntil? t flowId later = some resetsAt) ∧
      (resetsAt < later → ∃ left, 1 ≤ left ∧ rule.left? t flowId later = some left) := by
  rcases (refusesUntil?_eq_some_iff inRange dated).mp refuses with ⟨begins, resets, _⟩
  have begins := Instant.isSome_minus?_of_le begins rule.window_nonneg le regular
  have resets : rule.reset? t flowId later = some resetsAt :=
    (reset?_eq_some_iff_of_perm inRange dated same).mpr resets
  have refuses_iff {other : Instant} : rule.refusesUntil? t flowId later = some other ↔
      _ ∧ _ ∧ later ≤ other := refusesUntil?_eq_some_iff inRange (dated.of_perm same)
  constructor
  · intro early
    exact refuses_iff.mpr ⟨begins, resets, early⟩
  · intro elapsed
    refine exists_left? begins (by simp [resets]) (Option.eq_none_iff_forall_ne_some.mpr ?_)
    intro other refuses
    rcases refuses_iff.mp refuses with ⟨_, again, early⟩
    cases resets.symm.trans again
    exact Int.not_lt.mpr early elapsed

end Later

/-- What the check of a rule finds while the clock stands. -/
def checkedAt (rule : RateLimit) (flowId : FlowId) (tables : Shared) (now : Instant) :
    Except RateLimitError RateLimitResult :=
  ((rule.check flowId).run (timedAt now) ⟨tables, now⟩).1

theorem checkedAt_eq (rule : RateLimit) (flowId : FlowId) (tables : Shared) (now : Instant) :
    rule.checkedAt flowId tables now = rule.decideAt tables.store flowId now := by
  rcases runs_check (runs_timedAt (rule.check flowId) ⟨tables, now⟩ rfl) with
    ⟨_, _, rfl, _, decided⟩
  exact decided

/-- An execution of the flow that was created in the leap second at the end of 2016. -/
def leapStore : Store :=
  { busyStore with executions := [.create ⟨1483228800500000000, true⟩ ⟨"first"⟩ ⟨1⟩] }

/-- The busy store with another time of creation for its execution. -/
def redatedStore : Store :=
  (busyStore.answer (.ofMilliseconds 600) (.updateExecution
    (.create (.ofMilliseconds (-60000)) ⟨"first"⟩ ⟨1⟩))).2

/-- The rules for a node of a flow and the times at which executions of the flow were
created. -/
structure Stands (flowId : FlowId) (nodeId : String) (rules : List RateLimit)
    (creations : List Instant) (s : Store) : Prop where
  rules : s.listRateLimits flowId nodeId = rules
  creations : (s.createdAts flowId).Perm creations

/-- One who is refused comes back behind each reset that is told, while rules and executions
stand.  The last reset comes first. -/
inductive PutOff (shows : Instant → Prop) (flowId : FlowId) (nodeId : String)
    (rules : List RateLimit) (creations : List Instant) : List Instant → Timed → Prop where
  | never {s : Timed} (stands : Stands flowId nodeId rules creations s.state.store) :
      PutOff shows flowId nodeId rules creations [] s
  | again {resets : List Instant} {s t u : Timed} {wait : Duration} {resetsAt : Instant}
      (putOff : PutOff shows flowId nodeId rules creations resets s)
      (refused : Runs (timing shows) (checkFlow flowId nodeId) s (.ok (.exceeded wait resetsAt)) t)
      (elapsed : resetsAt < u.clock)
      (stands : Stands flowId nodeId rules creations u.state.store) :
      PutOff shows flowId nodeId rules creations (resetsAt :: resets) u

section Runs

variable {shows : Instant → Prop} {nodeId : String} {rules : List RateLimit}
  {creations : List Instant} {resets : List Instant} {u v : Timed}

theorem PutOff.stands (putOff : PutOff shows flowId nodeId rules creations resets u) :
    Stands flowId nodeId rules creations u.state.store := by
  cases putOff <;> assumption

/-- A check that refuses a request does so by a rule that is full, at a time at which all
rules before it were not. -/
theorem runs_checkFlow_exceeded {wait : Duration}
    (refused : Runs (timing shows) (checkFlow flowId nodeId) u (.ok (.exceeded wait resetsAt)) v)
    (listed : u.state.store.listRateLimits flowId nodeId = rules) :
    ∃ before rule behind now, rules = before ++ rule :: behind ∧ u.clock ≤ now ∧ shows now ∧
      rule.refusesUntil? u.state.store flowId now = some resetsAt ∧
      ∀ other ∈ before, ∃ earlier, earlier ≤ now ∧ shows earlier ∧
        other.refusesUntil? u.state.store flowId earlier = none := by
  rcases runs_checkFlow_checks refused with ⟨result, readings, same, checks⟩
  cases same
  rcases verdictOn_eq_exceeded_iff.mp checks.verdict.symm with
    ⟨front, rule, now, back, rfl, allows, refuses, _⟩
  rcases checks.inOrder with ⟨rest, split⟩
  rw [listed] at split
  have passes := checks.taken.passes ⟨rule, now⟩ (by simp)
  refine ⟨front.map (·.rule), rule, back.map (·.rule) ++ rest, now, by simp [← split],
    passes.later, passes.shown, refuses, ?_⟩
  intro other otherMem
  rcases List.mem_map.mp otherMem with ⟨reading, readingMem, rfl⟩
  have earlier := checks.taken.passes reading (List.mem_append_left _ readingMem)
  have ordered := (List.pairwise_append.mp checks.taken.ascending).2.2 reading readingMem
    ⟨rule, now⟩ List.mem_cons_self
  exact ⟨reading.now, ordered, earlier.shown, allows reading readingMem⟩

section Rules

variable (inRange : ∀ rule ∈ rules, rule.InRange)
  (begins : ∀ rule ∈ rules, ∀ now, shows now → (now.minus? rule.window).isSome = true)
  (dated : ∀ created ∈ creations, created.inLeapSecond = false)
include inRange begins dated

theorem Stands.refusesUntil?_of_later (stands : Stands flowId nodeId rules creations s)
    (again : Stands flowId nodeId rules creations t) (ruleMem : rule ∈ rules) (shown : shows now)
    (le : now ≤ later) (refuses : rule.refusesUntil? t flowId later = some resetsAt) :
    rule.refusesUntil? s flowId now = some resetsAt ∧ later ≤ resetsAt := by
  have listed : rule ∈ s.listRateLimits flowId nodeId := stands.rules.symm ▸ ruleMem
  have own := flowId_getD_of_appliesTo (List.mem_filter.mp listed).2
  apply RateLimit.refusesUntil?_of_later (inRange rule ruleMem) _ _ (begins rule ruleMem now shown)
    le refuses
  · rw [own]
    exact fun created createdMem => dated created (stands.creations.subset createdMem)
  · rw [own]
    exact again.creations.trans stands.creations.symm

/-- The reset that is told is not over when the rule that is full is checked. -/
theorem Stands.refused (stands : Stands flowId nodeId rules creations u.state.store)
    {wait : Duration}
    (refused : Runs (timing shows) (checkFlow flowId nodeId) u (.ok (.exceeded wait resetsAt)) v) :
    ∃ before rule behind now, rules = before ++ rule :: behind ∧ u.clock ≤ now ∧
      now ≤ resetsAt ∧ shows now ∧ rule.refusesUntil? u.state.store flowId now = some resetsAt ∧
      ∀ other ∈ before, ∃ earlier, earlier ≤ now ∧ shows earlier ∧
        other.refusesUntil? u.state.store flowId earlier = none := by
  rcases runs_checkFlow_exceeded refused stands.rules with
    ⟨before, rule, behind, now, split, began, shown, refuses, allows⟩
  have early := (Stands.refusesUntil?_of_later inRange begins dated stands stands
    (by simp [split]) shown (Instant.le_refl now) refuses).2
  exact ⟨before, rule, behind, now, split, began, early, shown, refuses, allows⟩

/-- When a check is refused and its reset is over, neither the rule that refused it nor any
before it refuses again. -/
theorem Stands.passed (stands : Stands flowId nodeId rules creations u.state.store)
    {wait : Duration}
    (refused : Runs (timing shows) (checkFlow flowId nodeId) u (.ok (.exceeded wait resetsAt)) v)
    {w : Timed} (elapsed : resetsAt < w.clock)
    (again : Stands flowId nodeId rules creations w.state.store) :
    u.clock < w.clock ∧ ∃ before rule behind, rules = before ++ rule :: behind ∧
      (∃ now, u.clock ≤ now ∧ rule.refusesUntil? u.state.store flowId now = some resetsAt) ∧
      ∀ other ∈ before ++ [rule], ∀ later, w.clock ≤ later →
        other.refusesUntil? w.state.store flowId later = none := by
  rcases Stands.refused inRange begins dated stands refused with
    ⟨before, rule, behind, now, split, began, early, shown, refuses, allows⟩
  have now_lt : now < w.clock := Int.lt_of_le_of_lt early elapsed
  refine ⟨Int.lt_of_le_of_lt began now_lt, before, rule, behind, split,
    ⟨now, began, refuses⟩, ?_⟩
  intro other otherMem later later_le
  have now_le : now ≤ later := Int.le_trans (Int.le_of_lt now_lt) later_le
  refine Option.eq_none_iff_forall_ne_some.mpr fun reset refusesAgain => ?_
  rcases List.mem_append.mp otherMem with otherMem | otherMem
  · rcases allows other otherMem with ⟨earlier, earlier_le, earlierShown, none⟩
    have refusedBefore := Stands.refusesUntil?_of_later inRange begins dated stands again
      (by simp [split, otherMem]) earlierShown (Instant.le_trans earlier_le now_le) refusesAgain
    cases none.symm.trans refusedBefore.1
  · obtain rfl := List.mem_singleton.mp otherMem
    have refusedBefore := Stands.refusesUntil?_of_later inRange begins dated stands again
      (by simp [split]) shown now_le refusesAgain
    cases refuses.symm.trans refusedBefore.1
    exact Int.not_lt.mpr (Instant.le_trans later_le refusedBefore.2) elapsed

/-- Each reset that was told is over, and for each of them there is a rule that does not
refuse again: the first of the rules are such. -/
theorem PutOff.passed (putOff : PutOff shows flowId nodeId rules creations resets u) :
    (∀ reset ∈ resets, reset < u.clock) ∧
    ∃ before behind, rules = before ++ behind ∧ resets.length ≤ before.length ∧
      ∀ rule ∈ before, ∀ now, u.clock ≤ now →
        rule.refusesUntil? u.state.store flowId now = none := by
  induction putOff with
  | never => exact ⟨by simp, [], rules, rfl, Nat.le_refl _, by simp⟩
  | @again resets s t u wait resetsAt putOff refused elapsed stands ih =>
      rcases ih with ⟨overs, before, behind, split, length_le, passed⟩
      rcases Stands.passed inRange begins dated putOff.stands refused elapsed stands with
        ⟨clock_lt, front, rule, back, found, ⟨now, began, refuses⟩, passedAll⟩
      refine ⟨List.forall_mem_cons.mpr ⟨elapsed, fun reset resetMem =>
        Int.lt_trans (overs reset resetMem) clock_lt⟩, front ++ [rule], back, by simp [found],
        ?_, passedAll⟩
      -- A rule that refuses is none of those that had been passed before.
      have length_le_front : before.length ≤ front.length := by
        rcases List.append_eq_append_iff.mp (split.symm.trans found) with
          ⟨rest, rfl, _⟩ | ⟨rest, rfl, ahead⟩
        · simp
        · cases rest with
          | nil => simp
          | cons first rest =>
              cases ahead
              cases refuses.symm.trans (passed rule (by simp) now began)
      rw [List.length_append, List.length_singleton]
      exact Nat.succ_le_succ (Nat.le_trans length_le length_le_front)

/-- Each rule puts off one who waits for the resets that are told at most once.  A check
behind any number of them comes to an end.  It is allowed, or it is refused by a rule that
stands behind as many others as there were resets, and until later than all of them; so there
are no more refusals than rules.  Behind the resets of all rules every check is allowed. -/
theorem PutOff.once_by_each (putOff : PutOff shows flowId nodeId rules creations resets u) :
    (shows u.clock → ∃ r v, Runs (timing shows) (checkFlow flowId nodeId) u r v) ∧
    (∃ before behind, rules = before ++ behind ∧ resets.length ≤ before.length ∧
      ∀ r v, Runs (timing shows) (checkFlow flowId nodeId) u r v →
        (∃ left, r = .ok (.allowed left)) ∨
        ∃ wait resetsAt, r = .ok (.exceeded wait resetsAt) ∧ (∀ reset ∈ resets, reset < resetsAt) ∧
          ∃ rule ∈ behind, ∃ now, u.clock ≤ now ∧
            rule.refusesUntil? u.state.store flowId now = some resetsAt) ∧
    ((∀ rule ∈ rules, ∀ resetsAt,
        rule.reset? u.state.store flowId u.clock = some resetsAt → resetsAt < u.clock) →
      ∀ r v, Runs (timing shows) (checkFlow flowId nodeId) u r v →
        ∃ left, r = .ok (.allowed left)) := by
  rcases PutOff.passed inRange begins dated putOff with
    ⟨overs, before, behind, split, length_le, passed⟩
  refine ⟨fun shown => ⟨_, _, runs_timedAt_of_shown shown⟩,
    ⟨before, behind, split, length_le, fun r v ran => ?_⟩, fun elapsed r v ran => ?_⟩
  · rcases runs_checkFlow ran with ⟨_, result, rfl, _⟩
    cases result with
    | allowed left => exact .inl ⟨left, rfl⟩
    | exceeded wait resetsAt =>
        rcases Stands.refused inRange begins dated putOff.stands ran with
          ⟨front, rule, back, now, found, began, early, _, refuses, _⟩
        refine .inr ⟨wait, resetsAt, rfl, fun reset resetMem => Int.lt_of_lt_of_le
          (overs reset resetMem) (Instant.le_trans began early), rule, ?_, now, began, refuses⟩
        have ruleMem : rule ∈ before ++ behind := by simp [← split, found]
        rcases List.mem_append.mp ruleMem with passedMem | behindMem
        · cases refuses.symm.trans (passed rule passedMem now began)
        · exact behindMem
  · rcases runs_checkFlow ran with ⟨_, result, rfl, _⟩
    cases result with
    | allowed left => exact ⟨left, rfl⟩
    | exceeded wait resetsAt =>
        rcases Stands.refused inRange begins dated putOff.stands ran with
          ⟨front, rule, back, now, found, began, early, _, refuses, _⟩
        have ruleMem : rule ∈ rules := by simp [found]
        have resets : rule.reset? u.state.store flowId u.clock = some resetsAt :=
          (reset?_eq_some_iff (inRange rule ruleMem)).mpr
            ((reset?_eq_some_iff (inRange rule ruleMem)).mp (reset?_of_refusesUntil? refuses))
        exact absurd (elapsed rule ruleMem resetsAt resets)
          (Int.not_lt.mpr (Instant.le_trans began early))

end Rules

end Runs

/-- A store with an execution of a flow, and two rules that allow one: in a second and in a
minute. -/
def twiceLimitedStore : Store :=
  { busyStore with rateLimits := [.forFlow ⟨1⟩ 1 .second 1, .forFlow ⟨1⟩ 1 .minute 1] }

/-- One who waits for the reset of the first rule is refused by the second, which was full
from the start. -/
theorem refused_after_reset :
    (∀ rule ∈ twiceLimitedStore.listRateLimits ⟨1⟩ "", rule.InRange ∧
      rule.Fits (.ofMilliseconds 500) ∧ rule.Fits (.ofMilliseconds 1500)) ∧
    (flowCheck twiceLimitedStore (.ofMilliseconds 500)).1 =
      .ok (.exceeded (.ofMilliseconds 505) (.ofMilliseconds 1005)) ∧
    (.ofMilliseconds 1005 : Instant) < .ofMilliseconds 1500 ∧
    (flowCheck twiceLimitedStore (.ofMilliseconds 1500)).1 =
      .ok (.exceeded (.ofMilliseconds 58505) (.ofMilliseconds 60005)) := by
  refine ⟨by decide +kernel, by decide +kernel, by decide, by decide +kernel⟩

/-- After as many refusals as there are rules the check is allowed. -/
theorem once_by_each_of_twiceLimited :
    ∃ left, (flowCheck twiceLimitedStore (.ofMilliseconds 61000)).1 = .ok (.allowed left) := by
  let shows (now : Instant) : Prop := now ∈ [Instant.ofMilliseconds 500, .ofMilliseconds 1500,
    .ofMilliseconds 61000]
  have stands : Stands ⟨1⟩ "" twiceLimitedStore.rateLimits (twiceLimitedStore.createdAts ⟨1⟩)
      twiceLimitedStore := ⟨by decide +kernel, .refl _⟩
  have runs (now : Instant) (shown : shows now) : Runs (timing shows) (checkFlow ⟨1⟩ "")
      ⟨⟨twiceLimitedStore, .empty⟩, now⟩ (flowCheck twiceLimitedStore now).1
      (flowCheck twiceLimitedStore now).2 := runs_timedAt_of_shown shown
  have first := runs (.ofMilliseconds 500) (by decide)
  have second := runs (.ofMilliseconds 1500) (by decide)
  rw [show (flowCheck twiceLimitedStore (.ofMilliseconds 500)).1 =
    .ok (.exceeded (.ofMilliseconds 505) (.ofMilliseconds 1005)) by decide +kernel] at first
  rw [show (flowCheck twiceLimitedStore (.ofMilliseconds 1500)).1 =
    .ok (.exceeded (.ofMilliseconds 58505) (.ofMilliseconds 60005)) by decide +kernel] at second
  have putOff := ((PutOff.never stands).again first (by decide : _ < (Timed.clock
    ⟨⟨twiceLimitedStore, .empty⟩, .ofMilliseconds 1500⟩)) stands).again second
    (by decide : _ < (Timed.clock ⟨⟨twiceLimitedStore, .empty⟩, .ofMilliseconds 61000⟩)) stands
  rcases (PutOff.once_by_each (by decide) (by decide) (by decide +kernel) putOff).2.1 with
    ⟨before, behind, split, length_le, onward⟩
  obtain rfl : behind = [] := by
    have lengths := congrArg List.length split
    rw [List.length_append] at lengths
    have two : twiceLimitedStore.rateLimits.length = 2 := rfl
    simp only [List.length_cons, List.length_nil] at length_le
    exact List.eq_nil_of_length_eq_zero (by omega)
  rcases onward _ _ (runs (.ofMilliseconds 61000) (by decide)) with
    allowed | ⟨_, _, _, _, _, ruleMem, _⟩
  · exact allowed
  · exact absurd ruleMem List.not_mem_nil

end RateLimit

end EventFlow
