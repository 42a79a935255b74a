import EventFlow.Proofs.Queue.Faltering
import EventFlow.Proofs.RateLimit.Admission

/-!
# What a call asks for

A call from outside is resolved to a request before anything is done: its flow has to be there
and to be switched on, and the call of a webhook stands for a request to the first trigger that
answers its token.  Until then, and while the limits are checked, the tables are only read.
-/

namespace EventFlow

open Program Shared

/-! ## Reading -/

/-- Does the question read the clock or rows of the store? -/
def ServiceCall.reads : ServiceCall → Bool
  | .now => true
  | .store (.getFlow _) => true
  | .store (.listNodes _) => true
  | .store (.listExecutions _ _) => true
  | .store (.listRateLimits _ _) => true
  | _ => false

/-- The program does nothing but read. -/
abbrev OnlyReads {α : Type} (p : Routine α) : Prop :=
  Asks (fun q : service.Question => ServiceCall.reads q = true) p

/-- What only reads leaves the tables as they are. -/
theorem Shared.eq_of_onlyReads {α : Type} {p : Routine α} {s t : Shared} {r : α}
    (ran : Runs faltering p s r t) (reads : OnlyReads p) : t = s := by
  apply ran.change_of_asks reads (fun u v => v = u) (fun _ => rfl)
    (fun _ _ _ first second => second.trans first)
  intro u q a v reads answered
  cases q with
  | now => exact answered
  | store call =>
      rcases answered with ⟨_, _, rfl⟩
      cases call with
      | getFlow | listNodes | listExecutions | listRateLimits => rfl
      | _ => contradiction
  | _ => contradiction

namespace RateLimit

theorem check_onlyReads (rule : RateLimit) (flowId : FlowId) :
    OnlyReads (rule.check flowId) := by
  simp only [check, Service.now_bind, Service.store_bind]
  refine ⟨rfl, fun now => ?_⟩
  dsimp only
  cases Instant.minus? now rule.window with
  | none => trivial
  | some start =>
      refine ⟨rfl, fun listed => ?_⟩
      cases listed <;> trivial

theorem checkAll_onlyReads (flowId : FlowId) (rules : List RateLimit) (remaining : Option Nat) :
    OnlyReads (checkAll flowId rules remaining) := by
  induction rules generalizing remaining with
  | nil => trivial
  | cons rule rest ih =>
      apply (check_onlyReads rule flowId).bind
      intro decision
      match decision with
      | .ok (.allowed (some _)) => exact ih _
      | .ok (.allowed none) => exact ih _
      | .ok (.exceeded _ _) => trivial
      | .error _ => exact ih _

/-- The limits are checked without any change. -/
theorem checkFlow_onlyReads (flowId : FlowId) (nodeId : String) :
    OnlyReads (checkFlow flowId nodeId) := by
  simp only [checkFlow, Service.store_bind]
  refine ⟨rfl, fun listed => ?_⟩
  cases listed with
  | error e => trivial
  | ok rules => exact (checkAll_onlyReads flowId rules none).bind fun _ => trivial

end RateLimit

/-! ## Resolving -/

/-- Is a call turned away with the error before it stands for a request? -/
def DispatchError.ofResolution : DispatchError → Bool
  | .flowNotFound _ => true
  | .flowDisabled _ => true
  | .invalidToken => true
  | .webhookNotFound _ => true
  | .store _ => true
  | .rateLimited _ => false
  | .engine _ => false

namespace Dispatcher

variable {dispatcher : Dispatcher} {s t : Shared}

/-- Is the flow there and switched on? -/
def lookUp (s : Store) (flowId : FlowId) : Except DispatchError Unit :=
  match s.getFlow flowId with
  | none => .error (.flowNotFound flowId)
  | some flow => if flow.enabled then .ok () else .error (.flowDisabled flowId)

/-- The request that a call stands for, or why it is turned away. -/
def resolve (dispatcher : Dispatcher) (s : Store) : Call → Except DispatchError FlowRequest
  | .trigger request => (lookUp s request.flowId).map fun _ => request
  | .webhook flowId token payload =>
    if Text.trim token = "" then .error .invalidToken
    else
      match lookUp s flowId with
      | .error e => .error e
      | .ok () =>
        match (s.listNodes flowId).find? (dispatcher.answersToken (Text.trim token)) with
        | none => .error (.webhookNotFound flowId)
        | some node => .ok ⟨flowId, node.triggerType, Text.trim token, payload⟩

/-- A call that stands for no request is turned away with an error that says so. -/
theorem ofResolution_of_resolve {s : Store} {call : Call} {e : DispatchError}
    (refused : dispatcher.resolve s call = .error e) : e.ofResolution = true := by
  have looked {flowId : FlowId} {e : DispatchError} (refused : lookUp s flowId = .error e) :
      e.ofResolution = true := by
    unfold lookUp at refused
    split at refused
    · cases refused
      rfl
    · split at refused <;> cases refused
      rfl
  cases call with
  | trigger request =>
      cases found : lookUp s request.flowId with
      | error cause =>
          simp only [resolve, found, Except.map] at refused
          cases refused
          exact looked found
      | ok _ => simp [resolve, found, Except.map] at refused
  | webhook flowId token payload =>
      simp only [resolve] at refused
      split at refused
      · cases refused
        rfl
      · split at refused
        · rename_i found
          cases refused
          exact looked found
        · split at refused <;> cases refused
          rfl

/-- A call that is turned away has done nothing; the others submit their request within the
limits. -/
theorem runs_serve_faltering {call : Call} {r : Except DispatchError Submission}
    (ran : Runs faltering (dispatcher.serve call) s r t) :
    (∃ e, dispatcher.resolve s.store call = .error e ∧ r = .error e ∧ t = s) ∨
      ∃ request, dispatcher.resolve s.store call = .ok request ∧
        Runs faltering (dispatcher.submitWithinLimits request) s r t := by
  have looked {flowId : FlowId} {u : Shared} {loaded : Except DispatchError Flow}
      (loading : Runs faltering (loadFlow flowId) s loaded u) :
      u = s ∧ lookUp s.store flowId = loaded.map fun _ => () := by
    simp only [loadFlow, Service.store_bind] at loading
    rcases faltering_store_iff.mp loading with ⟨_, ended⟩
    simp only [Store.answer] at ended
    unfold lookUp
    cases found : s.store.getFlow flowId with
    | none =>
        rw [found] at ended
        rcases runs_done_iff.mp ended with ⟨rfl, rfl⟩
        exact ⟨rfl, rfl⟩
    | some flow =>
        simp only [found] at ended
        rcases runs_done_iff.mp ended with ⟨rfl, rfl⟩
        cases switched : flow.enabled <;> exact ⟨rfl, by simp [switched, Except.map]⟩
  cases call with
  | trigger request =>
      rcases runs_bind_iff.mp ran with ⟨loaded, u, loading, ran⟩
      rcases looked loading with ⟨rfl, found⟩
      cases loaded with
      | error e =>
          rcases runs_done_iff.mp ran with ⟨rfl, rfl⟩
          exact .inl ⟨e, by simp [resolve, found, Except.map], rfl, rfl⟩
      | ok flow => exact .inr ⟨request, by simp [resolve, found, Except.map], ran⟩
  | webhook flowId token payload =>
      simp only [serve, triggerWebhook] at ran
      unfold resolve
      split at ran
      · rename_i blank
        rcases runs_done_iff.mp ran with ⟨rfl, rfl⟩
        exact .inl ⟨_, by simp [blank], rfl, rfl⟩
      · rename_i given
        rcases runs_bind_iff.mp ran with ⟨loaded, u, loading, ran⟩
        rcases looked loading with ⟨rfl, found⟩
        cases loaded with
        | error e =>
            rcases runs_done_iff.mp ran with ⟨rfl, rfl⟩
            exact .inl ⟨e, by simp [given, found, Except.map], rfl, rfl⟩
        | ok flow =>
            simp only [Service.store_bind] at ran
            rcases faltering_store_iff.mp ran with ⟨_, ran⟩
            simp only [Store.answer] at ran
            cases answering : (u.store.listNodes flowId).find?
                (dispatcher.answersToken (Text.trim token)) with
            | none =>
                rw [answering] at ran
                rcases runs_done_iff.mp ran with ⟨rfl, rfl⟩
                exact .inl ⟨_, by simp [given, found, answering, Except.map], rfl, rfl⟩
            | some node =>
                rw [answering] at ran
                exact .inr ⟨_, by simp [given, found, answering, Except.map], ran⟩

/-- A request is refused for a limit, which changes nothing, or it is submitted. -/
theorem runs_submitWithinLimits_faltering {request : FlowRequest}
    {r : Except DispatchError Submission}
    (ran : Runs faltering (dispatcher.submitWithinLimits request) s r t) :
    (∃ wait, r = .error (.rateLimited wait) ∧ t = s) ∨
      ∃ submitted, r = submitted.mapError .engine ∧
        Runs faltering (dispatcher.queue.submit request) s submitted t := by
  rcases runs_bind_iff.mp ran with ⟨checked, u, checking, ran⟩
  obtain rfl := Shared.eq_of_onlyReads checking (RateLimit.checkFlow_onlyReads _ _)
  have submits (ran : Runs faltering (dispatcher.queue.submit request >>= fun submitted =>
      (.done (submitted.mapError .engine) : Routine (Except DispatchError Submission))) u r t) :
      ∃ submitted, r = submitted.mapError .engine ∧
        Runs faltering (dispatcher.queue.submit request) u submitted t := by
    rcases runs_bind_iff.mp ran with ⟨submitted, v, submitting, ended⟩
    rcases runs_done_iff.mp ended with ⟨rfl, rfl⟩
    exact ⟨submitted, rfl, submitting⟩
  match checked with
  | .ok (.exceeded wait _) =>
      rcases runs_done_iff.mp ran with ⟨rfl, rfl⟩
      exact .inl ⟨wait, rfl, rfl⟩
  | .ok (.allowed _) => exact .inr (submits ran)
  | .error _ => exact .inr (submits ran)

/-! ## Webhooks -/

/-- A node answers a token if it is a trigger that has the token, and its rule is for
webhooks. -/
theorem answersToken_iff {token : String} {node : Node} :
    dispatcher.answersToken token node = true ↔
      node.isTrigger = true ∧ node.parameters.getString? tokenKey = some token ∧
        ∃ rule, dispatcher.registry.findTrigger node.bot node.ruleId = .ok rule ∧
          rule.mode = .webhook := by
  unfold answersToken
  cases dispatcher.registry.findTrigger node.bot node.ruleId <;> simp [and_assoc]

theorem lookUp_eq_ok_iff {s : Store} {flowId : FlowId} :
    lookUp s flowId = .ok () ↔ ∃ flow, s.getFlow flowId = some flow ∧ flow.enabled = true := by
  unfold lookUp
  cases s.getFlow flowId <;> simp

/-- The call of a webhook stands for a request to a node that answers its token. -/
theorem exists_node_of_resolve {s : Store} {flowId : FlowId} {token : String} {payload : Bag}
    {request : FlowRequest}
    (resolved : dispatcher.resolve s (.webhook flowId token payload) = .ok request) :
    (∃ flow, s.getFlow flowId = some flow ∧ flow.enabled = true) ∧ ∃ node,
      (s.listNodes flowId).find? (dispatcher.answersToken (Text.trim token)) = some node ∧
      request = ⟨flowId, node.triggerType, Text.trim token, payload⟩ := by
  simp only [resolve] at resolved
  split at resolved
  · contradiction
  · cases found : lookUp s flowId with
    | error e => simp [found] at resolved
    | ok _ =>
        cases answering : (s.listNodes flowId).find?
            (dispatcher.answersToken (Text.trim token)) with
        | none => simp [found, answering] at resolved
        | some node =>
            simp only [found, answering] at resolved
            exact ⟨lookUp_eq_ok_iff.mp found, node, rfl, (Except.ok.inj resolved).symm⟩

/-- The call of a webhook stands for a request exactly if it has a token that is not blank, its
flow is switched on, and a node of the flow answers the token. -/
theorem resolve_webhook_iff {s : Store} {flowId : FlowId} {token : String} {payload : Bag} :
    (∃ request, dispatcher.resolve s (.webhook flowId token payload) = .ok request) ↔
      Text.trim token ≠ "" ∧ (∃ flow, s.getFlow flowId = some flow ∧ flow.enabled = true) ∧
        ∃ node ∈ s.listNodes flowId, dispatcher.answersToken (Text.trim token) node = true := by
  constructor
  · rintro ⟨request, resolved⟩
    rcases exists_node_of_resolve resolved with ⟨found, node, answering, _⟩
    refine ⟨fun blank => ?_, found, node, List.mem_of_find?_eq_some answering,
      List.find?_some answering⟩
    simp [resolve, blank] at resolved
  · rintro ⟨given, found, node, nodeMem, answers⟩
    have found := lookUp_eq_ok_iff.mpr found
    cases answering : (s.listNodes flowId).find? (dispatcher.answersToken (Text.trim token)) with
    | none => exact absurd answers (List.find?_eq_none.mp answering node nodeMem)
    | some first =>
        exact ⟨⟨flowId, first.triggerType, Text.trim token, payload⟩,
          by simp [resolve, given, found, answering]⟩

end Dispatcher

/-! ## Twins

A flow may have several webhooks.  Here two of them use one rule and have different tokens. -/

namespace Twins

/-- When all is created. -/
def dawn : Instant := .ofMilliseconds 5

/-- A webhook with a token. -/
def door (name token : String) : Node :=
  { Node.ofRule dawn .trigger name "dev" "webhook" with
    flowId := ⟨1⟩, parameters := [(Dispatcher.tokenKey, .string token)] }

/-- The store of the flow. -/
def store : Store :=
  let withFlow := (Store.empty.answer dawn (.createFlow (.create dawn "owner" "topic" "doors"))).2
  let withFirst := (withFlow.answer dawn (.createNode (door "first" "one"))).2
  (withFirst.answer dawn (.createNode (door "second" "two"))).2

/-- A dispatcher with a queue. -/
def dispatcher : Dispatcher :=
  ⟨Bot.Dev.registry, ⟨true, .create Bot.Dev.registry .default, .default, .default⟩⟩

/-- The call of the first webhook, with blanks around its token. -/
def knock : Dispatcher.Call := .webhook ⟨1⟩ " one " []

theorem reachable : store.Reachable :=
  .answer (.answer (.answer .empty _ _) _ _) _ _

/-- The call stands for a request to the rule that both webhooks use. -/
example : (dispatcher.resolve store knock).map (fun request => (request.triggerType,
    request.triggerId)) = .ok ("dev|webhook", "one") := by
  decide +kernel

end Twins

end EventFlow
