import EventFlow.Proofs.Bag
import EventFlow.Proofs.Engine.Replay

/-!
# What a run says about itself

Beside the members of its event a run starts with three variables of its own: the event as a
whole, and by what the run was started.  They are put in last, so that no member of the event
takes their place.  But a trigger that passes the event on puts the members into the
variables once more.  So the metadata holds at the first node, and at all nodes for an event
without members of those names; with such a member it is the event's from the second node on.
-/

namespace EventFlow

open Program

/-! ## Metadata -/

/-- The names of the variables that a run keeps for itself. -/
def reservedKeys : List String := ["payload", "__trigger_type", "__trigger_id"]

/-- A bag has no member of a reserved name. -/
def Bag.Unreserved (bag : Bag) : Prop :=
  ∀ key ∈ reservedKeys, bag.get? key = none

/-- The variables tell the event of a request and by what it was started. -/
structure FlowRequest.Tells (request : FlowRequest) (vars : Bag) : Prop where
  payload : vars.get? "payload" = some (.object request.payload)
  triggerType : vars.get? "__trigger_type" = some (.string request.triggerType)
  triggerId : vars.get? "__trigger_id" = some (.string request.triggerId)

namespace FlowRequest

variable {request : FlowRequest} {vars result : Bag}

/-- The variables at the start of a run tell its request, whatever is in the event. -/
theorem tells_initialVariables (request : FlowRequest) :
    request.Tells
      (initialVariables request.payload request.triggerType request.triggerId) where
  payload := by
    rw [initialVariables, Bag.get?_insert_of_ne (by decide), Bag.get?_insert_of_ne (by decide),
      Bag.get?_insert]
  triggerType := by
    rw [initialVariables, Bag.get?_insert_of_ne (by decide), Bag.get?_insert]
  triggerId := Bag.get?_insert _ _ _

/-- A result without reserved names leaves the metadata as it is. -/
theorem Tells.extend (tells : request.Tells vars) (unreserved : result.Unreserved) :
    request.Tells (Bag.extend vars result) where
  payload := by
    rw [Bag.get?_extend_of_absent (unreserved _ (by decide)), tells.payload]
  triggerType := by
    rw [Bag.get?_extend_of_absent (unreserved _ (by decide)), tells.triggerType]
  triggerId := by
    rw [Bag.get?_extend_of_absent (unreserved _ (by decide)), tells.triggerId]

/-- Where the metadata holds, the event that a trigger is given is that of the request. -/
theorem Tells.event (tells : request.Tells vars) :
    (vars.getObject? "payload").getD [] = request.payload := by
  simp [Bag.getObject?, tells.payload, Json.object?]

end FlowRequest

/-! ## Results -/

/-- The triggers among some nodes do what all triggers do unless something else is said, and
declare no ingredients: they pass the event on. -/
def Engine.PassesEventsOn (engine : Engine) (nodes : List Node) : Prop :=
  ∀ node ∈ nodes, node.nodeType = .trigger → ∀ rule,
    engine.registry.findTrigger node.bot node.ruleId = .ok rule →
      rule.extraction = TriggerRule.extractDeclared []

namespace Run

variable {run : Run} {node : Node} {params vars result : Bag} {calls : List RuleCall}

/-- A trigger that passes the event on returns the event. -/
theorem Performed.result_of_trigger
    (performed : Performed run node params vars calls (.returned result))
    (trigger : node.nodeType = .trigger)
    (passesOn : ∀ rule, run.engine.registry.findTrigger node.bot node.ruleId = .ok rule →
      rule.extraction = TriggerRule.extractDeclared []) :
    result = (vars.getObject? "payload").getD [] := by
  generalize came : NodeOutcome.returned result = outcome at performed
  cases performed with
  | gate gate => simp [trigger, NodeType.isGate] at gate
  | noTrigger | badTrigger | noAction | badAction => contradiction
  | act action => simp [trigger] at action
  | @extract rule payload reply _ found _ event replied =>
      rw [passesOn rule found] at replied
      have passed : reply = .returned (.ok payload) := replied
      rw [passed] at came
      rw [← event]
      exact NodeOutcome.returned.inj came

/-- A gate returns nothing. -/
theorem Performed.result_of_gate
    (performed : Performed run node params vars calls (.returned result))
    (gate : node.nodeType.isGate = true) : result = [] := by
  generalize came : NodeOutcome.returned result = outcome at performed
  cases performed with
  | gate => exact NodeOutcome.returned.inj came
  | noTrigger | badTrigger | noAction | badAction => contradiction
  | extract trigger => simp [trigger, NodeType.isGate] at gate
  | act action => simp [action, NodeType.isGate] at gate

variable {request : FlowRequest} {among nodes : List Node} {log back : List LogEntry}
  {entry : LogEntry} {progress : Progress}

/-- A node that is run where the metadata holds returns nothing reserved, unless it is an
action that does or the event does. -/
theorem Logs.unreserved (logs : run.Logs node vars entry) (tells : request.Tells vars)
    (nodeMem : node ∈ among) (passesOn : run.engine.PassesEventsOn among)
    (event : request.payload.Unreserved) (returned : entry.outcome = .returned result)
    (actions : entry.job.nodeType = .action → entry.job.result.Unreserved) :
    result.Unreserved := by
  have performed := logs.performed
  have told := logs.told
  rw [returned] at performed told
  cases role : node.nodeType with
  | trigger =>
      rw [performed.result_of_trigger role (passesOn node nodeMem role), tells.event]
      exact event
  | action =>
      rw [← told.2.1]
      exact actions (logs.isOf.nodeType.trans role)
  | filter | condition =>
      rw [performed.result_of_gate (by rw [role]; rfl)]
      intro key _
      rfl

/-- If neither the event nor an action brings a reserved name, the metadata holds at every
node. -/
theorem Journal.tells (journal : Journal run among vars log progress) (tells : request.Tells vars)
    (passesOn : run.engine.PassesEventsOn among) (event : request.payload.Unreserved)
    (actions : ∀ entry ∈ log, entry.job.nodeType = .action → entry.job.result.Unreserved)
    {front : List LogEntry} (split : log = front ++ entry :: back) :
    request.Tells (gather vars (front.map (·.job))) := by
  induction journal generalizing front with
  | finished => simp at split
  | stopped =>
      cases front with
      | nil => exact tells
      | cons first rest => simp at split
  | wentOn nodeMem logs returned _ ih =>
      cases front with
      | nil => exact tells
      | cons first rest =>
          rcases List.cons.inj split with ⟨rfl, rest_eq⟩
          have told := logs.told
          rw [returned] at told
          rw [List.map_cons, gather_cons, told.2.1]
          have unreserved := logs.unreserved tells nodeMem passesOn event returned
            (actions _ List.mem_cons_self)
          exact ih (tells.extend unreserved)
            (fun other otherMem => actions other (List.mem_cons_of_mem _ otherMem)) rest_eq

/-- A tour starts with one of the nodes that it takes up. -/
theorem Tours.first_mem {graph : Graph} {levels : Nat} {path : List String}
    (tours : run.Tours graph levels path nodes vars log progress)
    (starts : log = entry :: back) : entry.node ∈ nodes := by
  induction tours with
  | finished | tooDeep | metAgain => contradiction
  | passed _ _ ih => exact List.mem_cons_of_mem _ (ih starts)
  | stopped _ _ logs =>
      cases starts
      exact logs.about ▸ List.mem_cons_self
  | stoppedBelow _ _ logs =>
      cases starts
      exact logs.about ▸ List.mem_cons_self
  | wentOn _ _ logs =>
      cases starts
      exact logs.about ▸ List.mem_cons_self

/-- A walk starts with a trigger. -/
theorem Walks.first_isTrigger {graph : Graph} {flowId : FlowId} {triggerType : String}
    (walks : run.Walks graph flowId triggerType vars log progress)
    (starts : log = entry :: back) : entry.node.nodeType = .trigger := by
  cases walks with
  | noTrigger => contradiction
  | toured _ tours =>
      have triggerMem := List.mem_of_mem_filter (tours.first_mem starts)
      simpa [Node.isTrigger] using (List.mem_filter.mp triggerMem).2

end Run

/-! ## Runs -/

namespace Engine

variable {engine : Engine} {id : ExecutionId} {request : FlowRequest} {s t : Watched} {flow : Flow}
  {log : List LogEntry} {progress : Run.Progress}

/-- What a trigger passes on at the start of a run takes the place of the metadata. -/
theorem Course.forged (course : Course engine id request s t flow log progress)
    (named : s.state.store.NodesNamed)
    (passesOn : engine.PassesEventsOn (s.state.store.listNodes request.flowId))
    (distinct : (request.payload.map (·.1)).Nodup) {first next : LogEntry} {back : List LogEntry}
    (starts : log = first :: next :: back) {key : String} {value : Json}
    (carried : request.payload.get? key = some value) :
    (request.gather [first.job]).get? key = some value := by
  have journal := course.journal named
  have trigger := course.walks.first_isTrigger starts
  rw [starts] at journal
  cases journal with
  | @wentOn node _ result _ _ _ nodeMem logs returned =>
      have performed := logs.performed
      have told := logs.told
      rw [returned] at performed told
      rw [logs.about] at trigger
      have passed := performed.result_of_trigger trigger (passesOn node nodeMem trigger)
      rw [(FlowRequest.tells_initialVariables request).event] at passed
      rw [FlowRequest.gather, gather_cons, gather_nil, told.2.1, passed]
      exact Bag.get?_extend_of_present distinct carried _

/-- What the nodes of a run are told about it.  The first one always finds the metadata; all
do if neither the event nor an action brings a reserved name; and to the second one every
member of the event is what the event says, whatever its name is. -/
structure TellsNodes (request : FlowRequest) (log : List LogEntry) : Prop where
  first : ∀ entry back, log = entry :: back →
    request.Tells (request.gather []) ∧
      entry.node.nodeType.request? (request.gather []) = some (.extract request.payload)
  every : request.payload.Unreserved →
    (∀ entry ∈ log, entry.job.nodeType = .action → entry.job.result.Unreserved) →
    ∀ front entry back, log = front ++ entry :: back →
      request.Tells (request.gather (front.map (·.job))) ∧
        (entry.node.nodeType = .trigger →
          entry.node.nodeType.request? (request.gather (front.map (·.job))) =
            some (.extract request.payload))
  second : (request.payload.map (·.1)).Nodup → ∀ first next back, log = first :: next :: back →
    ∀ key value, request.payload.get? key = some value →
      (request.gather [first.job]).get? key = some value

theorem Course.tellsNodes (course : Course engine id request s t flow log progress)
    (named : s.state.store.NodesNamed)
    (passesOn : engine.PassesEventsOn (s.state.store.listNodes request.flowId)) :
    TellsNodes request log where
  first entry back starts := by
    have tells := FlowRequest.tells_initialVariables request
    refine ⟨tells, ?_⟩
    rw [course.walks.first_isTrigger starts, NodeType.request?, FlowRequest.gather, gather_nil,
      tells.event]
  every event actions front entry back split := by
    have tells : request.Tells (request.gather (front.map (·.job))) :=
      (course.journal named).tells (FlowRequest.tells_initialVariables request) passesOn event
        actions split
    refine ⟨tells, fun trigger => ?_⟩
    rw [trigger, NodeType.request?, tells.event]
  second distinct first next back starts key value carried :=
    course.forged named passesOn distinct starts carried

/-- Executing a flow whose triggers pass the event on comes to an end.  Either the request is
refused, or the nodes of the run are told about it as far as no reserved name is used by the
event or an action. -/
theorem execute_tellsNodes (engine : Engine) (given : Option ExecutionId) (request : FlowRequest)
    (s : Shared) (reachable : s.store.Reachable)
    (passesOn : engine.PassesEventsOn (s.store.listNodes request.flowId)) :
    (∃ result t calls, Runs watching (engine.execute given request) ⟨s, []⟩ result ⟨t, calls⟩) ∧
    ∀ result t calls, Runs watching (engine.execute given request) ⟨s, []⟩ result ⟨t, calls⟩ →
      ∃ id, id.isBlank = false ∧
        ((∃ e, result = .error e ∧ Refuses s.store id request e ∧ t = s ∧ calls = []) ∨
          ∃ flow log, Replays engine flow id request ⟨s, []⟩ ⟨t, calls⟩ log result ∧
            TellsNodes request log) := by
  constructor
  · rcases Shared.exists_runs (engine.execute given request) s with ⟨result, t, ran⟩
    rcases exists_watched ran with ⟨calls, watched⟩
    exact ⟨result, t, calls, watched⟩
  · intro result t calls ran
    rcases runs_execute ran with ⟨id, notBlank, _, ran⟩
    refine ⟨id, notBlank, ?_⟩
    rcases runs_executeUnder reachable.wellFormed ran with
      ⟨e, rfl, refuses, same⟩ | ⟨flow, log, progress, course, rfl⟩
    · cases same
      exact .inl ⟨e, rfl, refuses, rfl, rfl⟩
    · exact .inr ⟨flow, log, course.replays reachable.nodesNamed,
        course.tellsNodes reachable.nodesNamed passesOn⟩

/-- The store of one flow, in which a trigger is followed by an action. -/
def relayStore : Store :=
  let now : Instant := .ofMilliseconds 6
  let action := { Node.ofRule now .action "act" "dev" "echo" with flowId := ⟨1⟩ }
  let edge := { Edge.create now "start" "act" with flowId := ⟨1⟩ }
  ((greetingStore.answer now (.createNode action)).2.answer now (.createEdge edge)).2

/-- A request for the flow whose event claims to be another one. -/
def forgedRequest : FlowRequest :=
  ⟨⟨1⟩, "dev|ping", "event", [("__trigger_id", .string "forged")]⟩

/-- A run of the flow for it. -/
def forgedRun : Except EngineError ExecutionId × Watched :=
  ((Engine.create Bot.Dev.registry .default).execute (some ⟨"run"⟩) forgedRequest).run
    (watchAt (.ofMilliseconds 7)) ⟨⟨relayStore, .empty⟩, []⟩

theorem relayStore_reachable : relayStore.Reachable :=
  .answer (.answer (.answer (.answer (.answer .empty _ _) _ _) _ _) _ _) _ _

theorem relayStore_passesOn :
    (Engine.create Bot.Dev.registry .default).PassesEventsOn (relayStore.listNodes ⟨1⟩) := by
  intro node nodeMem trigger rule found
  rcases List.mem_cons.mp nodeMem with rfl | actionMem
  · have ping : (Engine.create Bot.Dev.registry .default).registry.findTrigger "dev" "ping" =
        .ok Bot.Dev.ping := rfl
    cases ping.symm.trans found
    rfl
  · rw [List.mem_singleton.mp actionMem] at trigger
    contradiction

theorem forgedRun_runs : Runs watching
    ((Engine.create Bot.Dev.registry .default).execute (some ⟨"run"⟩) forgedRequest)
    ⟨⟨relayStore, .empty⟩, []⟩ (.ok ⟨"run"⟩) forgedRun.2 := by
  have ran : Runs watching _ _ forgedRun.1 forgedRun.2 := runs_run (watching_watchAt _) _ _
  have succeeded : forgedRun.1 = .ok ⟨"run"⟩ := by decide +kernel
  rwa [succeeded] at ran

/-- The action of the flow is told what the event claims, though it returns nothing
reserved itself. -/
theorem forgedRun_not_tells :
    Runs watching ((Engine.create Bot.Dev.registry .default).execute (some ⟨"run"⟩) forgedRequest)
      ⟨⟨relayStore, .empty⟩, []⟩ (.ok ⟨"run"⟩) forgedRun.2 ∧
    ∃ flow log, Replays (.create Bot.Dev.registry .default) flow ⟨"run"⟩ forgedRequest
        ⟨⟨relayStore, .empty⟩, []⟩ forgedRun.2 log (.ok ⟨"run"⟩) ∧
      (∀ entry ∈ log, entry.job.nodeType = .action → entry.job.result.Unreserved) ∧
      ¬ ∀ front entry back, log = front ++ entry :: back →
        forgedRequest.Tells (forgedRequest.gather (front.map (·.job))) := by
  have ran := forgedRun_runs
  refine ⟨ran, ?_⟩
  rcases runs_execute ran with ⟨id, _, given_eq, ranUnder⟩
  obtain rfl := given_eq ⟨"run"⟩ rfl (by decide +kernel)
  rcases runs_executeUnder relayStore_reachable.wellFormed ranUnder with
    ⟨e, failed, _⟩ | ⟨flow, log, progress, course, same⟩
  · contradiction
  have replays := course.replays relayStore_reachable.nodesNamed
  rw [← same] at replays
  have jobs : forgedRun.2.state.store.jobs = log.map (·.job) := replays.jobs
  refine ⟨flow, log, replays, ?_, ?_⟩
  · have actions : ∀ job ∈ forgedRun.2.state.store.jobs, job.nodeType = .action →
        ∀ key ∈ reservedKeys, (job.result.get? key).isNone = true := by decide +kernel
    intro entry entryMem action key reserved
    exact Option.isNone_iff_eq_none.mp
      (actions _ (jobs ▸ List.mem_map_of_mem entryMem) action key reserved)
  · have two : forgedRun.2.state.store.jobs.length = 2 := by decide +kernel
    rw [jobs, List.length_map] at two
    rcases List.length_eq_two.mp two with ⟨first, second, rfl⟩
    intro told
    have triggerId := (told [first] second [] rfl).triggerId
    have recorded : [first].map (·.job) = forgedRun.2.state.store.jobs.take 1 := by
      rw [jobs]
      rfl
    rw [recorded] at triggerId
    exact absurd (congrArg (Option.bind · Json.string?) triggerId) (by decide +kernel)

/-- The first node of that run is told the truth, and the second one what the event claims. -/
theorem execute_tellsNodes_forged :
    ∃ first second : LogEntry, forgedRun.2.state.store.jobs = [first.job, second.job] ∧
      forgedRequest.Tells (forgedRequest.gather []) ∧
      (forgedRequest.gather [first.job]).get? "__trigger_id" = some (.string "forged") := by
  have ran := forgedRun_runs
  rcases (execute_tellsNodes _ _ _ _ relayStore_reachable relayStore_passesOn).2 _ _ _ ran with
    ⟨id, _, ⟨e, failed, _⟩ | ⟨flow, log, replays, tells⟩⟩
  · contradiction
  have jobs : forgedRun.2.state.store.jobs = log.map (·.job) := replays.jobs
  have two : forgedRun.2.state.store.jobs.length = 2 := by decide +kernel
  rw [jobs, List.length_map] at two
  rcases List.length_eq_two.mp two with ⟨first, second, starts⟩
  refine ⟨first, second, by rw [jobs, starts]; rfl, (tells.first first _ starts).1, ?_⟩
  exact tells.second (by decide) first second [] starts _ _ rfl

end Engine

end EventFlow
