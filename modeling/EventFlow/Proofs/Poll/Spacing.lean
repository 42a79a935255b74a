import EventFlow.Proofs.Bag
import EventFlow.Proofs.Poll.Row
import EventFlow.Proofs.Timed

/-!
# The time between polls

When a trigger has been polled its state tells the second from which on it is polled again.
Whatever the rule has replied, the poller puts this second into the state itself, and reads it
back at every later visit.
-/

namespace EventFlow

open Program
open Relation (ReflTransGen)

/-! ## The due time -/

/-- An integer of 64 bits is read back as it was put in. -/
theorem Bag.getInteger?_insert {n : Int} (fits : Text.Range.signed64.contains n = true) (bag : Bag)
    (key : String) : (Bag.insert key (.ofInt n) bag).getInteger? key = some n :=
  getInteger?_of_get? fits (get?_insert bag key _)

/-- A second that exists is an integer of 64 bits. -/
theorem Instant.fits_of_representable {now : Instant} (exist : now.representable = true) :
    Text.Range.signed64.contains now.seconds = true := by
  simp only [Instant.representable, Bool.and_eq_true, decide_eq_true_eq] at exist
  simp only [Instant.leastSecond, Instant.greatestSecond] at exist
  simp only [Text.Range.contains, Bool.and_eq_true, decide_eq_true_eq]
  simp only [Text.Range.signed64]
  omega

/-- Seconds that are added to an instant are added to the second that it belongs to. -/
theorem Instant.seconds_after (now : Instant) {secs : Int} (forward : 0 ≤ secs) :
    (now.after (.ofSeconds secs)).seconds = now.seconds + secs := by
  simp only [after, plus, Duration.ofSeconds, lt_def]
  by_cases leap : now.inLeapSecond
  · rw [if_pos leap]
    split
    · simp only [seconds, leap, if_true]
      omega
    · rw [if_pos (by omega)]
      simp only [seconds, leap, if_true, Bool.false_eq_true, if_false]
      omega
  · rw [if_neg leap]
    simp only [seconds, leap, Bool.false_eq_true, if_false]
    omega

namespace Poller

/-- The second from which on a node with a state is due. -/
def dueAt (vars : Bag) : Int :=
  (vars.getInteger? nextAtKey).getD 0

theorem isDue_iff {node : Node} {now : Instant} :
    isDue node now = true ↔ dueAt node.vars ≤ now.seconds := by
  simp [isDue, dueAt]

/-- So many seconds behind an instant there is another that exists. -/
structure Schedulable (now : Instant) (secs : Int) : Prop where
  least : -greatestInterval ≤ secs
  greatest : secs ≤ greatestInterval
  exist : (now.plus? (.ofSeconds secs)).isSome = true

theorem exists_schedule {now : Instant} {secs : Int} (schedulable : Schedulable now secs)
    (state : Bag) : ∃ vars, schedule? state now secs = some vars := by
  rcases Option.isSome_iff_exists.mp schedulable.exist with ⟨next, later⟩
  rw [schedule?, if_pos ⟨schedulable.least, schedulable.greatest⟩, later]
  exact ⟨_, rfl⟩

/-- What is kept is the second of the instant at which the trigger is due. -/
theorem exists_next_of_schedule? {state vars : Bag} {now : Instant} {secs : Int}
    (scheduled : schedule? state now secs = some vars) :
    ∃ next, now.plus? (.ofSeconds secs) = some next ∧
      vars = Bag.insert nextAtKey (.ofInt next.seconds) state := by
  unfold schedule? at scheduled
  split at scheduled
  · rcases Option.map_eq_some_iff.mp scheduled with ⟨next, later, rfl⟩
    exact ⟨next, later, rfl⟩
  · cases scheduled

/-- The seconds between polls lie between the seconds of what is shown and of what is kept. -/
theorem schedule?_eq_some {state vars : Bag} {now : Instant} {secs : Int} (forward : 0 ≤ secs)
    (scheduled : schedule? state now secs = some vars) :
    vars = Bag.insert nextAtKey (.ofInt (now.seconds + secs)) state ∧
      dueAt vars = now.seconds + secs := by
  rcases exists_next_of_schedule? scheduled with ⟨next, later, rfl⟩
  unfold Instant.plus? at later
  split at later
  · rename_i exist
    cases later
    have fits := Instant.fits_of_representable exist
    rw [now.seconds_after forward] at fits ⊢
    exact ⟨rfl, by simp [dueAt, Bag.getInteger?_insert fits]⟩
  · cases later

/-! ## What a visit leaves -/

/-- The state that a visit leaves a trigger with. -/
def left (poller : Poller) (visit : Visit) : Bag :=
  match visit.reply.map (Reply.kept visit.node.vars) with
  | some (.ok state) =>
    (schedule? state visit.now (poller.interval visit.node)).getD visit.node.vars
  | _ => visit.node.vars

/-- The seconds between polls are read off the parameters. -/
theorem interval_congr (poller : Poller) {a b : Node} (same : a.parameters = b.parameters) :
    poller.interval a = poller.interval b := by
  rw [interval, interval, same]

/-- A visit never makes a trigger due earlier. -/
theorem dueAt_le_left {poller : Poller} {visit : Visit}
    (whenDue : visit.reply.isSome = isDue visit.node visit.now)
    (forward : 0 ≤ poller.interval visit.node) :
    dueAt visit.node.vars ≤ dueAt (poller.left visit) := by
  unfold left
  cases replied : visit.reply with
  | none => simp
  | some reply =>
      rw [replied, Option.isSome_some] at whenDue
      have due := isDue_iff.mp whenDue.symm
      cases kept : reply.kept visit.node.vars with
      | error message => simp [kept]
      | ok state =>
          simp only [Option.map_some, kept]
          cases scheduled : schedule? state visit.now (poller.interval visit.node) with
          | none => simp
          | some vars =>
              rw [Option.getD_some, (schedule?_eq_some forward scheduled).2]
              omega

/-- Visits of a trigger, each of which finds what the one before has left. -/
inductive Successive (poller : Poller) (params : Bag) : Bag → List Visit → Prop where
  | nil {vars : Bag} : Successive poller params vars []
  | cons {vars : Bag} {visit : Visit} {rest : List Visit} (found : visit.node.vars = vars)
      (drawn : visit.node.parameters = params)
      (whenDue : visit.reply.isSome = isDue visit.node visit.now)
      (later : Successive poller params (poller.left visit) rest) :
      Successive poller params vars (visit :: rest)

namespace Successive

variable {poller : Poller} {params vars : Bag} {visits : List Visit} {visit : Visit}

theorem behind {front : List Visit} (successive : Successive poller params vars (front ++ visits)) :
    ∃ vars', Successive poller params vars' visits := by
  induction front generalizing vars with
  | nil => exact ⟨vars, successive⟩
  | cons visit rest ih =>
      cases successive with
      | cons _ _ _ later => exact ih later

/-- A trigger is not polled before it is due. -/
theorem dueAt_le (successive : Successive poller params vars visits)
    (forward : ∀ node : Node, node.parameters = params → 0 ≤ poller.interval node) :
    ∀ visit ∈ visits, visit.reply.isSome = true → dueAt vars ≤ visit.now.seconds := by
  induction successive with
  | nil => simp
  | cons found drawn whenDue _ ih =>
      subst found
      rw [List.forall_mem_cons]
      constructor
      · intro polled
        exact isDue_iff.mp (whenDue ▸ polled)
      · intro later laterMem polled
        exact Int.le_trans (dueAt_le_left whenDue (forward _ drawn)) (ih later laterMem polled)

/-- A trigger that is not due is left as it is, and when it is due it is polled with what it was
left with. -/
theorem polls_when_due {waiting rest : List Visit}
    (successive : Successive poller params vars (waiting ++ visit :: rest))
    (early : ∀ before ∈ waiting, before.now.seconds < dueAt vars)
    (due : dueAt vars ≤ visit.now.seconds) :
    visit.reply.isSome = true ∧ visit.node.vars = vars := by
  induction waiting generalizing vars with
  | nil =>
      cases successive with
      | cons found _ whenDue _ =>
          subst found
          exact ⟨whenDue.trans (isDue_iff.mpr due), rfl⟩
  | cons before waiting ih =>
      rcases List.forall_mem_cons.mp early with ⟨notYet, early⟩
      cases successive with
      | cons found _ whenDue later =>
          subst found
          have unpolled : before.reply = none := by
            have notDue : isDue before.node before.now ≠ true := by
              rw [Ne, isDue_iff]
              omega
            simpa [notDue] using whenDue
          have same : poller.left before = before.node.vars := by simp [left, unpolled]
          rw [same] at later
          exact ih later early due

end Successive

/-! ## A trigger that others do not write -/

/-- Others use the tables as they like, but put nothing in the place of a node. -/
def sparing (name : FlowId × String) (call : StoreCall) (before after : Instant) : Prop :=
  call.replaces? name = none ∧ after = before

/-- The answers that tables give while the clock shows certain instants, and while others spare a
node. -/
abbrev sharing (name : FlowId × String) (shows : Instant → Prop) : Answering service Timed :=
  among (sparing name) (clocking shows)

variable {poller : Poller} {name : FlowId × String} {shows : Instant → Prop} {s t u : Timed}
  {row : Node}

theorem stored_of_others (others : ReflTransGen (Operates (sparing name)) s t)
    (reachable : s.state.store.Reachable) (stored : s.state.store.nodeNamed? name = some row) :
    t.state.store.nodeNamed? name = some row := by
  induction others with
  | refl => exact stored
  | tail first last ih =>
      cases last with
      | store now call told =>
          have sound := (reachable_of_others first reachable).sound
          have answered := Store.nodeNamed?_answer sound ih now call
          rwa [told.1, Option.map_none, Option.getD_none] at answered
      | queue => exact ih

/-- What leaves a node alone leaves its row as it is. -/
theorem stored_of_proceeds {lists : FlowId → Prop} {writes : FlowId × String → Prop}
    (proceeds : ProceedsTouching (sparing name) (clocking shows) lists writes s t)
    (spares : ¬ writes name) (reachable : s.state.store.Reachable)
    (stored : s.state.store.nodeNamed? name = some row) :
    t.state.store.nodeNamed? name = some row := by
  induction proceeds with
  | refl => exact stored
  | tail first last ih =>
      rcases last with ⟨q, a, touches, u, others, answered, _⟩
      have before := reachable_of_proceeds first reachable
      have between := stored_of_others others before ih
      exact answered.nodeNamed? touches spares (reachable_of_others others before) between

/-- A trigger is visited as it is stored, polled if it is due, and stored again with what the visit
leaves. -/
structure Leaves (poller : Poller) (name : FlowId × String) (shows : Instant → Prop) (row : Node)
    (visit : Visit) (t : Timed) : Prop where
  node_eq : visit.node = row
  whenDue : visit.reply.isSome = isDue visit.node visit.now
  shown : shows visit.now
  stored : ∃ left, t.state.store.nodeNamed? name = some left ∧
    left.vars = poller.left visit ∧ left.parameters = row.parameters

theorem Leaves.proceeds {visit : Visit} {lists : FlowId → Prop}
    {writes : FlowId × String → Prop} (leaves : Leaves poller name shows row visit t)
    (proceeds : ProceedsTouching (sparing name) (clocking shows) lists writes t u)
    (spares : ¬ writes name) (reachable : t.state.store.Reachable) :
    Leaves poller name shows row visit u := by
  rcases leaves with ⟨same, whenDue, shown, left, stored, kept⟩
  exact ⟨same, whenDue, shown, left, stored_of_proceeds proceeds spares reachable stored, kept⟩

theorem shown_of_reads {now : Instant} (read : Reads (sharing name shows) s now t) : shows now := by
  rcases read with ⟨_, _, _, _, shown, _⟩
  exact shown

/-- A poll that goes on leaves the rows of nodes as they are. -/
theorem Polls.keeps {visit : Visit} {reply : Reply PollResult}
    (polls : Polls poller (sharing name shows) visit reply s t)
    (reachable : s.state.store.Reachable) (stored : s.state.store.nodeNamed? name = some row) :
    t.state.store.Reachable ∧ t.state.store.nodeNamed? name = some row ∧
      isDue visit.node visit.now = true ∧ shows visit.now := by
  have polled : ProceedsTouching (sparing name) (clocking shows) (fun _ => True)
    (fun _ => False) s t := polls.touches
  rcases polls with ⟨_, read, due, _⟩
  exact ⟨reachable_of_proceeds polled reachable, stored_of_proceeds polled id reachable stored, due,
    shown_of_reads read⟩

theorem TakesUp.leaves {flow : Flow} {node : Node} {report : TickReport} {visits : List Visit}
    {r : Except String TickReport} (named : node.name = name)
    (takesUp : TakesUp poller (sharing name shows) flow node report s visits r t)
    (reachable : s.state.store.Reachable) (stored : s.state.store.nodeNamed? name = some node) :
    (visits = [] ∧ t.state.store.nodeNamed? name = some node) ∨
      ∃ visit, visits = [visit] ∧ Leaves poller name shows node visit t := by
  cases takesUp with
  | passed => exact .inl ⟨rfl, stored⟩
  | early _ read early =>
      have looks : ServiceCall.now.Touches (fun _ => True) (fun _ => False) := trivial
      have still := stored_of_proceeds (Proceeds.single looks read) id reachable stored
      exact .inr ⟨_, rfl, rfl, early.symm, shown_of_reads read, node, still, rfl, rfl⟩
  | brokeDown _ polls broke =>
      rcases polls.keeps reachable stored with ⟨_, still, due, shown⟩
      refine .inr ⟨_, rfl, rfl, due.symm, shown, node, still, ?_, rfl⟩
      simp [left, broke]
  | unschedulable _ polls kept never =>
      rcases polls.keeps reachable stored with ⟨_, still, due, shown⟩
      refine .inr ⟨_, rfl, rfl, due.symm, shown, node, still, ?_, rfl⟩
      simp [left, kept, never]
  | @settled _ _ _ _ _ _ _ vars _ _ polls kept scheduled saved submitted =>
      rcases polls.keeps reachable stored with ⟨between, still, due, shown⟩
      have keeps : ({ node with vars } : Node).name = name := named
      rcases runs_saveState_among keeps between still saved with ⟨_, _, _, _, written⟩
      have after := stored_of_proceeds (submitEvents_touches submitted) id
        (reachable_of_runs_among saved between) written
      refine .inr ⟨_, rfl, rfl, due.symm, shown, _, after, ?_, rfl⟩
      simp [left, kept, scheduled]

/-- The visits of a node. -/
def visitsOf (name : FlowId × String) (visits : List Visit) : List Visit :=
  visits.filter fun visit => visit.node.name = name

theorem visitsOf_append (name : FlowId × String) (visits more : List Visit) :
    visitsOf name (visits ++ more) = visitsOf name visits ++ visitsOf name more :=
  List.filter_append visits more

theorem visitsOf_elsewhere {visits : List Visit} (elsewhere : Elsewhere name visits) :
    visitsOf name visits = [] :=
  List.filter_eq_nil_iff.mpr fun visit visitMem => by simpa using elsewhere visit visitMem

theorem Takes.leaves {flow : Flow} {node : Node} {visits : List Visit} (named : node.name = name)
    (takes : Takes poller (sparing name) (clocking shows) flow node s visits t)
    (reachable : s.state.store.Reachable) (stored : s.state.store.nodeNamed? name = some node) :
    (visitsOf name visits = [] ∧ t.state.store.nodeNamed? name = some node) ∨
      ∃ visit, visitsOf name visits = [visit] ∧ Leaves poller name shows node visit t := by
  subst named
  have spares : ¬ node.name ≠ node.name := fun other => other rfl
  cases takes with
  | take before takesUp after first last =>
      have between := reachable_of_proceeds before reachable
      have still := stored_of_proceeds before spares reachable stored
      have ended := reachable_of_runs_among takesUp.runs between
      rw [visitsOf_append, visitsOf_append, visitsOf_elsewhere first, visitsOf_elsewhere last,
        List.nil_append, List.append_nil]
      rcases takesUp.leaves rfl between still with ⟨rfl, stored⟩ | ⟨visit, rfl, leaves⟩
      · exact .inl ⟨rfl, stored_of_proceeds after spares ended stored⟩
      · refine .inr ⟨visit, ?_, leaves.proceeds after spares ended⟩
        simp [visitsOf, leaves.node_eq]

/-- On a tick a trigger that is stored is visited once at the most. -/
theorem Ticks.leaves {visits : List Visit} {r : Except String TickReport}
    (ticks : Ticks poller (sharing name shows) s visits r t) (reachable : s.state.store.Reachable)
    (stored : s.state.store.nodeNamed? name = some row) :
    (visitsOf name visits = [] ∧ t.state.store.nodeNamed? name = some row) ∨
      ∃ visit, visitsOf name visits = [visit] ∧ Leaves poller name shows row visit t := by
  have spares : ¬ name ≠ name := fun other => other rfl
  have meets : Meets poller (sparing name) (clocking shows) name s visits t := ticks.meets reachable
  cases meets with
  | never beside elsewhere =>
      exact .inl ⟨visitsOf_elsewhere elsewhere, stored_of_proceeds beside spares reachable stored⟩
  | once before listed nodeMem named takes first =>
      have between := reachable_of_proceeds before reachable
      have still := stored_of_proceeds before spares reachable stored
      have lists : ServiceCall.Touches (fun _ => True) (fun _ => False)
        (.store (.listNodes name.1)) := trivial
      have same := stored_of_proceeds (Proceeds.single lists listed) id between still
      have found := nodeNamed?_of_listed listed between nodeMem named
      obtain rfl := Option.some.inj (same.symm.trans found)
      rw [visitsOf_append, visitsOf_elsewhere first, List.nil_append]
      exact takes.leaves named (reachable_of_among listed between) found

/-- A trigger that becomes due later on a tick has been polled, and its state has been kept. -/
theorem Ticks.exists_polled {left : Node} {visits : List Visit} {r : Except String TickReport}
    (ticks : Ticks poller (sharing name shows) s visits r t) (reachable : s.state.store.Reachable)
    (stored : s.state.store.nodeNamed? name = some row)
    (after : t.state.store.nodeNamed? name = some left)
    (changed : dueAt left.vars ≠ dueAt row.vars) :
    ∃ visit reply state, visitsOf name visits = [visit] ∧ visit.reply = some reply ∧
      reply.kept visit.node.vars = .ok state := by
  rcases ticks.leaves reachable stored with ⟨_, still⟩ | ⟨visit, one, leaves⟩
  · cases after.symm.trans still
    exact absurd rfl changed
  · rcases leaves with ⟨rfl, _, _, left', still, vars, _⟩
    cases after.symm.trans still
    rw [vars] at changed
    unfold Poller.left at changed
    cases replied : visit.reply with
    | none => simp [replied] at changed
    | some reply =>
        cases kept : reply.kept visit.node.vars with
        | error message => simp [replied, kept] at changed
        | ok state => exact ⟨visit, reply, state, one, replied, kept⟩

/-! ## Rounds -/

/-- Ticks follow each other. -/
inductive Rounds (poller : Poller) (name : FlowId × String) (shows : Instant → Prop) :
    Timed → List Visit → Timed → Prop where
  | nil {s : Timed} : Rounds poller name shows s [] s
  | tick {s t u : Timed} {visits more : List Visit} {r : Except String TickReport}
      (ticks : Ticks poller (sharing name shows) s visits r t)
      (later : Rounds poller name shows t more u) :
      Rounds poller name shows s (visits ++ more) u

/-- The poller has ticked, any number of times. -/
def Ticked (poller : Poller) (name : FlowId × String) (shows : Instant → Prop) :
    Timed → Timed → Prop :=
  ReflTransGen fun s t => ∃ r, Runs (sharing name shows) poller.tick s r t

/-- The runs of ticks that follow each other are the rounds. -/
theorem ticked_iff :
    Ticked poller name shows s t ↔ ∃ visits, Rounds poller name shows s visits t := by
  constructor
  · intro ticked
    induction ticked using ReflTransGen.head_induction_on with
    | refl => exact ⟨[], .nil⟩
    | head ran _ ih =>
        rcases ran with ⟨_, ran⟩
        rcases ticks_of_runs ran with ⟨visits, ticks⟩
        rcases ih with ⟨more, later⟩
        exact ⟨visits ++ more, .tick ticks later⟩
  · rintro ⟨visits, rounds⟩
    induction rounds with
    | nil => exact .refl
    | tick ticks _ ih => exact .head ⟨_, runs_tick_iff.mpr ⟨_, ticks⟩⟩ ih

theorem Rounds.successive {visits : List Visit} (rounds : Rounds poller name shows s visits t)
    (reachable : s.state.store.Reachable) (stored : s.state.store.nodeNamed? name = some row) :
    Successive poller row.parameters row.vars (visitsOf name visits) ∧
      ∀ visit ∈ visitsOf name visits, shows visit.now := by
  induction rounds generalizing row with
  | nil => exact ⟨.nil, by simp [visitsOf]⟩
  | @tick _ _ _ visits more _ ticks _ ih =>
      have between := reachable_of_runs_among (runs_tick_iff.mpr ⟨visits, ticks⟩) reachable
      rw [visitsOf_append]
      rcases ticks.leaves reachable stored with ⟨none, still⟩ | ⟨visit, one, leaves⟩
      · rw [none, List.nil_append]
        exact ih between still
      · rcases leaves with ⟨rfl, whenDue, shown, left, still, vars, params⟩
        rcases ih between still with ⟨later, shownLater⟩
        rw [vars, params] at later
        rw [one, List.singleton_append]
        exact ⟨.cons rfl rfl whenDue later, List.forall_mem_cons.mpr ⟨shown, shownLater⟩⟩

/-- When a trigger that others do not write has been polled at some second, it is not polled again
before the seconds between its polls have passed; and the first time that it is visited behind
them, it is polled with the state that was kept and the second at which it became due.  The rounds
that this is said of are the runs of the poller's ticks. -/
theorem polls_spaced {visits earlier more : List Visit} {visit : Visit} {reply : Reply PollResult}
    {state : Bag} (reachable : s.state.store.Reachable)
    (stored : s.state.store.nodeNamed? name = some row)
    (positive : 0 < poller.interval row)
    (schedulable : ∀ now, shows now → Schedulable now (poller.interval row))
    (rounds : Rounds poller name shows s visits t)
    (split : visitsOf name visits = earlier ++ visit :: more) (polled : visit.reply = some reply)
    (kept : reply.kept visit.node.vars = .ok state) :
    (∀ later ∈ more, later.reply.isSome = true →
      visit.now.seconds + poller.interval row ≤ later.now.seconds) ∧
    (∀ waiting next rest, more = waiting ++ next :: rest →
      (∀ early ∈ waiting, early.now.seconds < visit.now.seconds + poller.interval row) →
      visit.now.seconds + poller.interval row ≤ next.now.seconds →
      next.reply.isSome = true ∧ next.node.vars =
        Bag.insert nextAtKey (.ofInt (visit.now.seconds + poller.interval row)) state) ∧
    ∀ u, Ticked poller name shows s u ↔ ∃ seen, Rounds poller name shows s seen u := by
  rcases rounds.successive reachable stored with ⟨successive, shown⟩
  rw [split] at successive shown
  rcases successive.behind with ⟨_, behind⟩
  cases behind with
  | cons found drawn _ later =>
      have own : poller.interval visit.node = poller.interval row := interval_congr poller drawn
      have here : shows visit.now := shown visit (by simp)
      rcases exists_schedule (schedulable _ here) state with ⟨vars, scheduled⟩
      have left : poller.left visit = vars := by simp [left, polled, kept, own, scheduled]
      rcases schedule?_eq_some (Int.le_of_lt positive) scheduled with ⟨written, due⟩
      rw [left] at later
      rw [← written, ← due]
      refine ⟨?_, ?_, fun u => ticked_iff⟩
      · apply later.dueAt_le
        intro node same
        rw [interval_congr poller same]
        exact Int.le_of_lt positive
      · rintro waiting next rest rfl early due
        exact later.polls_when_due early due

end Poller

/-! ## Two polls -/

namespace Feed

/-- An answer to every question, while the clock shows an instant. -/
def showing (now : Instant) (s : Timed) : (q : ServiceCall) → q.Answer × Timed
  | .now => (now, ⟨s.state, now⟩)
  | q => ((s.state.answerAt now q).1, ⟨(s.state.answerAt now q).2, s.notes⟩)

/-- When the trigger is polled first, and when it is polled again. -/
def twice (now : Instant) : Prop :=
  now = .ofMilliseconds 10000 ∨ now = .ofMilliseconds 75000

theorem sharing_showing {now : Instant} (shown : twice now) (s : Timed) (q : ServiceCall)
    (notYet : s.clock ≤ now) :
    Poller.sharing feed.name twice s q (showing now s q).1 (showing now s q).2 ∧
      (showing now s q).2.clock ≤ now := by
  cases q with
  | now => exact ⟨⟨s, .refl, rfl, notYet, shown, rfl⟩, Instant.le_refl now⟩
  | _ => exact ⟨⟨s, .refl, s.state.answers_answerAt now _, rfl⟩, notYet⟩

/-- The tables after a tick. -/
def after (now : Instant) (s : Timed) : Timed :=
  (poller.tick.run (showing now) s).2

theorem runs_showing {now : Instant} (shown : twice now) (s : Timed) (notYet : s.clock ≤ now) :
    Runs (Poller.sharing feed.name twice) poller.tick s (poller.tick.run (showing now) s).1
      (after now s) :=
  runs_run_of_valid (fun s : Timed => s.clock ≤ now)
    (fun s q notYet => sharing_showing shown s q notYet) poller.tick s notYet

/-- Before the first tick. -/
def quiet : Timed := ⟨⟨store, .empty⟩, start⟩

/-- After the first tick. -/
def once : Timed := after (.ofMilliseconds 10000) quiet

end Feed

/-- The trigger is polled twice, with more than its seconds in between. -/
theorem polls_spaced_twice :
    ∃ visits first second state,
      Poller.Rounds Feed.poller Feed.feed.name Feed.twice Feed.quiet visits
        (Feed.after (.ofMilliseconds 75000) Feed.once) ∧
      Poller.visitsOf Feed.feed.name visits = [first, second] ∧
      first.now.seconds + Feed.poller.interval Feed.stored ≤ second.now.seconds ∧
      second.reply.isSome = true ∧ second.node.vars =
        Bag.insert Poller.nextAtKey
          (.ofInt (first.now.seconds + Feed.poller.interval Feed.stored)) state := by
  have schedulable (now : Instant) (shown : Feed.twice now) :
      Poller.Schedulable now (Feed.poller.interval Feed.stored) := by
    rcases shown with rfl | rfl <;> exact ⟨by decide +kernel, by decide +kernel, by decide +kernel⟩
  have ran₁ := Feed.runs_showing (.inl rfl) Feed.quiet (by decide)
  have ran₂ := Feed.runs_showing (.inr rfl) Feed.once (by decide +kernel)
  rcases Poller.ticks_of_runs ran₁ with ⟨visits₁, ticks₁⟩
  rcases Poller.ticks_of_runs ran₂ with ⟨visits₂, ticks₂⟩
  have due₁ : (Feed.once.state.store.nodeNamed? Feed.feed.name).map (Poller.dueAt ·.vars) =
      some 70 := by decide +kernel
  have due₂ : ((Feed.after (.ofMilliseconds 75000) Feed.once).state.store.nodeNamed?
      Feed.feed.name).map (Poller.dueAt ·.vars) = some 135 := by decide +kernel
  rcases Option.map_eq_some_iff.mp due₁ with ⟨left₁, stored₁, left₁_due⟩
  rcases Option.map_eq_some_iff.mp due₂ with ⟨left₂, stored₂, left₂_due⟩
  have changed₁ : Poller.dueAt left₁.vars ≠ Poller.dueAt Feed.stored.vars := by
    rw [left₁_due]
    decide
  have changed₂ : Poller.dueAt left₂.vars ≠ Poller.dueAt left₁.vars := by
    rw [left₁_due, left₂_due]
    decide
  have between := reachable_of_runs_among ran₁ Feed.reachable
  rcases ticks₁.exists_polled Feed.reachable Feed.found stored₁ changed₁ with
    ⟨first, _, state, one₁, polled, kept⟩
  rcases ticks₂.exists_polled between stored₁ stored₂ changed₂ with
    ⟨second, _, _, one₂, polledAgain, _⟩
  have rounds := Poller.Rounds.tick ticks₁ (.tick ticks₂ .nil)
  have split : Poller.visitsOf Feed.feed.name (visits₁ ++ (visits₂ ++ [])) =
      [] ++ first :: [second] := by
    rw [List.append_nil, Poller.visitsOf_append, one₁, one₂]
    rfl
  have spaced := Poller.polls_spaced Feed.reachable Feed.found (by decide) schedulable rounds
    split polled kept
  have repolled : second.reply.isSome = true := by rw [polledAgain]; rfl
  have due := spaced.1 second List.mem_cons_self repolled
  exact ⟨_, first, second, state, rounds, split, due,
    spaced.2.1 [] second [] rfl (by simp) due⟩

end EventFlow
