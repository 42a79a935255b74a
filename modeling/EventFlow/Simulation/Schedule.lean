import EventFlow.Simulation.World

/-!
# Running programs in a simulated world

One program runs in the foreground, and the tasks that it has started run beside
it, one at a time.  A program that has its turn goes on until it has to wait.
Tasks get their turns in the order in which they became ready.  When nothing is
ready, the clock moves to the earliest time that is waited for, and the program
in the foreground goes on before the tasks that have waited for the same time.
-/

namespace EventFlow.Simulation

/-- Where a turn of a program ends: at its end, or where it has to wait. -/
inductive Turn (α : Type) where
  | finished (value : α)
  | blocked (wait : Wait) (resume : Bool → Routine α)

namespace World

/-- Runs a program at a site until it ends or has to wait. -/
def exec {α : Type} (site : Site) : Routine α → World → Turn α × World
  | .done a, w => (.finished a, w)
  | .ask call next, w =>
    match w.answer site call with
    | (.now answer, w) => exec site (next answer) w
    | (.later wait answer, w) => (.blocked wait fun flag => next (answer flag), w)

/-- Gives a task its turn, which may span so many rounds. -/
def runRounds (id : TaskId) (site : Site) : Nat → Routine Round → World → World
  | 0, _, w => w
  | rounds + 1, program, w =>
    match w.exec site program with
    | (.blocked wait resume, w) => { w with blocked := w.blocked ++ [⟨id, site, wait, resume⟩] }
    | (.finished (.next daemon), w) =>
      runRounds id site rounds (daemon.round (w.host site).parts) w
    | (.finished .ended, w) => w.finish id true
    | (.finished (.broken _), w) => w.finish id false

/-- Gives every task that is ready its turn, and those that become ready
meanwhile, so many turns at most. -/
def drain (rounds : Nat) : Nat → World → World
  | 0, w => w
  | turns + 1, w =>
    match w.ready with
    | [] => w
    | thread :: rest =>
      let w := { w with ready := rest }
      drain rounds turns
        (w.runRounds thread.id thread.site rounds (thread.resume (w.flag thread.site thread.wait)))

/-- The earliest time that is waited for, besides a time of one's own. -/
def nextTime (w : World) (own : Option Int) : Option Int :=
  (w.blocked.filterMap (·.wait.time)).foldl
    (fun least time => some (least.elim time fun t => min t time)) own

/-- Moves the clock to a time and makes the tasks ready that have waited for it. -/
def moveTo (w : World) (time : Int) : World :=
  { w with elapsed := time }.wakeWhere fun thread => thread.wait.time.any (· ≤ time)

/-- How many steps a run may take. -/
def patience : Nat := 1099511627776

/-- Goes on with a program in the foreground from the end of a turn.  There is no
result when nothing can ever happen again, or the steps are used up. -/
def proceed {α : Type} (site : Site) : Nat → Turn α → World → Option α × World
  | _, .finished a, w => (some a, w)
  | 0, .blocked _ _, w => (none, w)
  | steps + 1, .blocked wait resume, w =>
    if w.isOver site wait then
      let (turn, w) := w.exec site (resume (w.flag site wait))
      proceed site steps turn w
    else if w.ready.isEmpty then
      match w.nextTime wait.time with
      | some time => proceed site steps (.blocked wait resume) (w.moveTo time)
      | none => (none, w)
    else proceed site steps (.blocked wait resume) (w.drain patience patience)

/-- Runs a program in the foreground. -/
def run {α : Type} (w : World) (site : Site) (program : Routine α) : Option α × World :=
  let (turn, w) := w.exec site program
  proceed site patience turn w

end World

end EventFlow.Simulation
