import EventFlow.Proofs.Engine.Alone
import EventFlow.Proofs.Engine.Roots

/-!
# The scope of a trigger type

A trigger type is cut at its first separator.  If it names a bot and a rule, a run enters the
triggers that have both, in the order of their rows, and when there is none it executes nothing
and succeeds.  A trigger type that is empty stands for no choice, and a run enters all triggers.
So it does for one that is not empty but has an empty half.
-/

namespace EventFlow

open Program

/-! ## Halves -/

namespace Text

variable {separator : Char} {cs before behind : List Char}

theorem splitFirst?_eq_none_iff : splitFirst? separator cs = none ↔ separator ∉ cs := by
  induction cs with
  | nil => simp [splitFirst?]
  | cons c cs ih =>
      rw [splitFirst?]
      split
      · rename_i met
        simp [met]
      · rename_i other
        simp [ih, Ne.symm other]

/-- A text that is cut has the separator, and what stands before the first one is free of it. -/
theorem splitFirst?_eq_some_iff :
    splitFirst? separator cs = some (before, behind) ↔
      cs = before ++ separator :: behind ∧ separator ∉ before := by
  constructor
  · intro cut
    induction cs generalizing before with
    | nil => cases cut
    | cons c cs ih =>
        rw [splitFirst?] at cut
        split at cut
        · rename_i met
          cases cut
          simp [met]
        · rename_i other
          rcases Option.map_eq_some_iff.mp cut with ⟨⟨front, rest⟩, cut, same⟩
          cases same
          rcases ih cut with ⟨rfl, free⟩
          exact ⟨rfl, by simp [free, Ne.symm other]⟩
  · rintro ⟨rfl, free⟩
    exact splitFirst?_append free behind

end Text

/-- A trigger type names a bot and a rule: neither half is empty. -/
def NamesBoth (triggerType : String) : Prop :=
  (splitTriggerType triggerType).1 ≠ "" ∧ (splitTriggerType triggerType).2 ≠ ""

instance (triggerType : String) : Decidable (NamesBoth triggerType) :=
  inferInstanceAs (Decidable (_ ∧ _))

/-- One that does not is empty, or nothing stands before or behind its first separator. -/
theorem not_namesBoth_iff {triggerType : String} :
    ¬ NamesBoth triggerType ↔ triggerType = "" ∨ ∃ before behind,
      triggerType.toList = before ++ triggerTypeSeparator :: behind ∧
        triggerTypeSeparator ∉ before ∧ (before = [] ∨ behind = []) := by
  rw [NamesBoth, splitTriggerType]
  cases cut : Text.splitFirst? triggerTypeSeparator triggerType.toList with
  | none =>
      have free := Text.splitFirst?_eq_none_iff.mp cut
      have uncut : ¬ ∃ before behind,
          triggerType.toList = before ++ triggerTypeSeparator :: behind ∧
            triggerTypeSeparator ∉ before ∧ (before = [] ∨ behind = []) := by
        rintro ⟨before, behind, written, _⟩
        exact free (by simp [written])
      by_cases empty : triggerType = ""
      · simp [empty]
      · simp [empty, uncut, Bot.devName]
  | some halves =>
      rcases halves with ⟨before, behind⟩
      rcases Text.splitFirst?_eq_some_iff.mp cut with ⟨written, free⟩
      constructor
      · intro half
        refine .inr ⟨before, behind, written, free, ?_⟩
        by_contra whole
        rcases not_or.mp whole with ⟨someBefore, someBehind⟩
        exact half ⟨by simpa using someBefore, by simpa using someBehind⟩
      · rintro (rfl | ⟨front, rest, again, frontFree, empty⟩)
        · simp at written
        · cases cut.symm.trans (Text.splitFirst?_eq_some_iff.mpr ⟨again, frontFree⟩)
          rcases empty with rfl | rfl <;> simp

namespace Store

/-- The triggers of a flow, in the order of their rows. -/
def triggers (s : Store) (flowId : FlowId) : List Node :=
  (s.listNodes flowId).filter Node.isTrigger

/-- The triggers that a trigger type is about: those with its bot and its rule, if it names
both, and otherwise all. -/
def scope (s : Store) (flowId : FlowId) (triggerType : String) : List Node :=
  if NamesBoth triggerType then
    (s.triggers flowId).filter fun node =>
      (node.bot, node.ruleId) == splitTriggerType triggerType
  else s.triggers flowId

theorem selected_eq_scope (s : Store) (flowId : FlowId) (triggerType : String) :
    s.selected flowId triggerType = s.scope flowId triggerType := by
  rw [selected, scope, triggers]
  split
  · rename_i both
    apply List.filter_congr
    intro node _
    rw [Bool.eq_iff_iff]
    simp [Node.isRootFor, both.1, both.2, Prod.ext_iff]
  · rename_i half
    apply List.filter_eq_self.mpr
    intro node _
    have empty := not_and_or.mp half
    simp only [ne_eq, not_not] at empty
    rcases empty with empty | empty <;> simp [Node.isRootFor, empty]

theorem NodesNamed.triggers_graph {s : Store} (named : s.NodesNamed) (flowId : FlowId) :
    (s.graph flowId).triggers = s.triggers flowId := by
  rw [Graph.triggers, graph, Graph.nodes_ofRows (named.listNodes flowId), triggers]

end Store

/-! ## Runs -/

/-- A tour that has nothing to take up is over. -/
theorem Run.tours_nil_iff {run : Run} {graph : Graph} {levels : Nat} {path : List String}
    {vars : Bag} {log : List LogEntry} {progress : Run.Progress} :
    run.Tours graph levels path [] vars log progress ↔ log = [] ∧ progress = (vars, .ok ()) := by
  constructor
  · rintro ⟨⟩
    exact ⟨rfl, rfl⟩
  · rintro ⟨rfl, rfl⟩
    exact .finished

namespace Engine

/-- A run that finds triggers, but none in the scope of its request, executes nothing and
succeeds. -/
theorem executeUnder_of_scope_nil {engine : Engine} {id : ExecutionId} {request : FlowRequest}
    {s t : Watched} {result : Except EngineError ExecutionId}
    (reachable : s.state.store.Reachable)
    (ran : Runs watching (engine.executeUnder id request) s result t)
    (accepted : refusal? s.state.store id request = none)
    (triggers : s.state.store.triggers request.flowId ≠ [])
    (unscoped : s.state.store.scope request.flowId request.triggerType = []) :
    result = .ok id ∧ t.state.store.jobs = s.state.store.jobs ∧ t.notes = s.notes ∧
      ∃ row, t.state.store.getExecution id = some row ∧ row.state = .succeeded := by
  have named := reachable.nodesNamed
  rcases runs_executeUnder_parts narrows_watching ran with
    ⟨e, _, refused, _⟩ | ⟨flow, row, progress, opened, walked, parts, rfl⟩
  · cases accepted.symm.trans refused
  rcases parts.row narrows_watching with ⟨_, _, _, now, kept⟩
  rcases parts.course reachable.wellFormed with ⟨log, course⟩
  rcases course.left with ⟨executions, left⟩
  cases course.walks with
  | noTrigger none =>
      exact absurd ((named.triggers_graph request.flowId).symm.trans none) triggers
  | toured _ tours =>
      have roots := named.roots_graph request.flowId request.triggerType
      rw [Store.selected_eq_scope, unscoped] at roots
      rw [← Store.graph, roots] at tours
      rcases Run.tours_nil_iff.mp tours with ⟨rfl, rfl⟩
      rw [Watched.logging_nil] at left
      subst left
      exact ⟨rfl, rfl, rfl, _, kept, rfl⟩

/-- Executing a flow that has triggers comes to an end, and enters the scope of the trigger
type of its request unless its id belongs to another flow.  All triggers are in the scope of a
trigger type that is empty, and of one with an empty half.  In that of any other are exactly the
triggers with the bot and the rule that it names, in the order of their rows; when there is none
no node is executed, no job is created and the execution succeeds. -/
theorem execute_enters_scope (engine : Engine) (given : Option ExecutionId)
    (request : FlowRequest) (s : Shared) (reachable : s.store.Reachable) {flow : Flow}
    (found : s.store.getFlow request.flowId = some flow) (enabled : flow.enabled = true)
    (triggers : s.store.triggers request.flowId ≠ []) :
    (∃ result t, Runs watching (engine.execute given request) ⟨s, []⟩ result t) ∧
    (∀ result t, Runs watching (engine.execute given request) ⟨s, []⟩ result t →
      ∃ id, id.isBlank = false ∧
        (∀ named, given = some named → named.isBlank = false → id = named) ∧
        ((∃ row, s.store.getExecution id = some row ∧ row.flowId ≠ request.flowId ∧
            result = .error (.boundToOtherFlow id row.flowId) ∧ t = ⟨s, []⟩) ∨
          EntersRoots id request.flowId (s.store.scope request.flowId request.triggerType) s.store
            t.state.store result ∧
          (s.store.scope request.flowId request.triggerType = [] →
            result = .ok id ∧ t.state.store.jobs = s.store.jobs ∧ t.notes = [] ∧
              ∃ row, t.state.store.getExecution id = some row ∧ row.state = .succeeded))) ∧
    (¬ NamesBoth request.triggerType ↔ request.triggerType = "" ∨ ∃ before behind,
      request.triggerType.toList = before ++ triggerTypeSeparator :: behind ∧
        triggerTypeSeparator ∉ before ∧ (before = [] ∨ behind = [])) := by
  refine ⟨?_, fun result t ran => ?_, not_namesBoth_iff⟩
  · rcases Shared.exists_runs (engine.execute given request) s with ⟨result, t, ran⟩
    rcases exists_watched ran with ⟨calls, ran⟩
    exact ⟨result, _, ran⟩
  · rcases runs_execute ran with ⟨id, notBlank, given_eq, ran⟩
    refine ⟨id, notBlank, given_eq, ?_⟩
    rcases runs_executeUnder_parts narrows_watching ran with
      ⟨e, rfl, refused, rfl⟩ | ⟨_, _, _, _, _, parts, _⟩
    · cases Refuses.of_refusal? refused with
      | noFlow absent => cases found.symm.trans absent
      | disabled other off =>
          cases found.symm.trans other
          cases enabled.symm.trans off
      | bound stored foreign => exact .inl ⟨_, stored, foreign, rfl, rfl⟩
    · have enters := executeUnder_entersRoots reachable.wellFormed reachable.nodesNamed
        ran.unwatched
      rw [Store.selected_eq_scope] at enters
      exact .inr ⟨enters,
        executeUnder_of_scope_nil reachable ran (parts.accepted narrows_watching) triggers⟩

/-- The greeting for an event of a trigger type. -/
def greetingOf (triggerType : String) : Routine (Except EngineError ExecutionId) :=
  (Engine.create Bot.Dev.registry .default).execute (some ⟨"run"⟩)
    ⟨⟨1⟩, triggerType, "event", []⟩

/-- It is executed by itself, while the calls of rules are noted. -/
def greetedBy (triggerType : String) : Except EngineError ExecutionId × Watched :=
  (greetingOf triggerType).run (watchAt (.ofMilliseconds 7)) ⟨⟨greetingStore, .empty⟩, []⟩

/-- For a rule that no trigger has nothing is executed. -/
theorem execute_enters_scope_of_pong :
    greetingStore.scope ⟨1⟩ "dev|pong" = [] ∧ ∀ result t,
      Runs watching (greetingOf "dev|pong") ⟨⟨greetingStore, .empty⟩, []⟩ result t →
      result = .ok ⟨"run"⟩ ∧ t.state.store.jobs = [] ∧ t.notes = [] := by
  have reachable : greetingStore.Reachable := .answer (.answer (.answer .empty _ _) _ _) _ _
  have unscoped : greetingStore.scope ⟨1⟩ "dev|pong" = [] := by decide +kernel
  have switchedOn : (greetingStore.getFlow ⟨1⟩).map (·.enabled) = some true := by decide +kernel
  rcases Option.map_eq_some_iff.mp switchedOn with ⟨flow, found, enabled⟩
  refine ⟨unscoped, fun result t ran => ?_⟩
  rcases (execute_enters_scope _ _ _ _ reachable found enabled (by decide +kernel)).2.1 _ _ ran with
    ⟨id, _, given, outcome⟩
  obtain rfl := given ⟨"run"⟩ rfl rfl
  rcases outcome with ⟨row, stored, foreign, _⟩ | ⟨_, nothing⟩
  · have own : (greetingStore.getExecution ⟨"run"⟩).map (·.flowId) = some ⟨1⟩ := by
      decide +kernel
    rw [show greetingStore.getExecution ⟨"run"⟩ = some row from stored] at own
    exact absurd (Option.some.inj own) foreign
  · rcases nothing unscoped with ⟨ended, jobs, calls, _⟩
    exact ⟨ended, jobs, calls⟩

/-- For a bot without a rule a trigger is executed that does not have them. -/
theorem half_key_enters_trigger :
    ((greetingStore.triggers ⟨1⟩).filter fun node =>
      (node.bot, node.ruleId) == splitTriggerType "dev|") = [] ∧
    (greetedBy "dev|").1 = .ok ⟨"run"⟩ ∧
    (greetedBy "dev|").2.state.store.jobs.map (·.nodeId) = ["start"] := by
  refine ⟨?_, ?_, ?_⟩ <;> decide +kernel

end Engine

end EventFlow
