import EventFlow.Proofs.Notes
import EventFlow.Proofs.Store.Chronicle
import EventFlow.Proofs.Shared
import Mathlib.Logic.Relation

/-!
# Beside others

Before each answer that a program gets, others may use the tables as often as they like.
What they ask for is noted like the questions of the program.
-/

namespace EventFlow

open Relation (ReflTransGen)

namespace Program

variable {I : Interface} {S α : Type}

/-- Surroundings in which others act before each answer. -/
def Answering.amid (answers : Answering I S) (others : S → S → Prop) : Answering I S :=
  fun s q a t => ∃ u, others s u ∧ answers u q a t

/-- Answers to questions of a kind lead from one state to another. -/
def Proceeds (answers : Answering I S) (kind : I.Question → Prop) : S → S → Prop :=
  ReflTransGen fun s t => ∃ q a, kind q ∧ answers s q a t

variable {answers : Answering I S} {kind wider : I.Question → Prop} {s t u : S}

theorem Proceeds.refl (s : S) : Proceeds answers kind s s :=
  ReflTransGen.refl

theorem Proceeds.trans (first : Proceeds answers kind s t) (second : Proceeds answers kind t u) :
    Proceeds answers kind s u :=
  ReflTransGen.trans first second

theorem Proceeds.single {q : I.Question} {a : I.Answer q} (ofKind : kind q)
    (answered : answers s q a t) : Proceeds answers kind s t :=
  ReflTransGen.single ⟨q, a, ofKind, answered⟩

theorem Proceeds.mono (proceeds : Proceeds answers kind s t) (within : ∀ q, kind q → wider q) :
    Proceeds answers wider s t := by
  refine ReflTransGen.mono ?_ s t proceeds
  rintro u v ⟨q, a, ofKind, answered⟩
  exact ⟨q, a, within q ofKind, answered⟩

/-- A run that asks nothing but questions of a kind proceeds by the answers to them. -/
theorem Runs.proceeds {p : Program I α} {r : α} (run : Runs answers p s r t) (asks : Asks kind p) :
    Proceeds answers kind s t :=
  run.change_of_asks asks (Proceeds answers kind) .refl (fun _ _ _ => .trans)
    fun _ _ _ _ ofKind answered => .single ofKind answered

/-- What each answer makes of a state, all of them make together. -/
theorem Proceeds.change (proceeds : Proceeds answers kind s t) (change : S → S → Prop)
    (refl : ∀ s, change s s) (trans : ∀ s t u, change s t → change t u → change s u)
    (each : ∀ s q a t, kind q → answers s q a t → change s t) : change s t := by
  induction proceeds with
  | refl => exact refl s
  | tail _ last ih =>
      rcases last with ⟨q, a, ofKind, answered⟩
      exact trans _ _ _ ih (each _ q a _ ofKind answered)

end Program

open Program

/-- The flow of a node and its name in the flow. -/
def Node.name (node : Node) : FlowId × String :=
  (node.flowId, node.nodeId)

/-! ## Others at the tables -/

section Others

variable {N : Type}

/-- Others put a question to the tables: to the store, with a note of it, or to the queue. -/
inductive Operates (tells : StoreCall → N → N → Prop) : Noted Shared N → Noted Shared N → Prop where
  | store {s : Noted Shared N} {after : N} (now : Instant) (call : StoreCall)
      (told : tells call s.notes after) :
      Operates tells s ⟨{ s.state with store := (s.state.store.answer now call).2 }, after⟩
  | queue {s : Noted Shared N} (now : Instant) (call : QueueCall) :
      Operates tells s ⟨{ s.state with queue := (s.state.queue.answer now call).2 }, s.notes⟩

/-- The answers of tables that others use as well, while notes are kept of all questions. -/
abbrev among (tells : StoreCall → N → N → Prop)
    (note : (q : ServiceCall) → q.Answer → N → N → Prop) : Answering service (Noted Shared N) :=
  (Shared.answering.noting note).amid (ReflTransGen (Operates tells))

variable {tells : StoreCall → N → N → Prop} {note : (q : ServiceCall) → q.Answer → N → N → Prop}
  {s t : Noted Shared N}

theorem Operates.reachable (operates : Operates tells s t) (reachable : s.state.store.Reachable) :
    t.state.store.Reachable := by
  cases operates with
  | store now call _ => exact reachable.answer now call
  | queue => exact reachable

theorem reachable_of_others (others : ReflTransGen (Operates tells) s t)
    (reachable : s.state.store.Reachable) : t.state.store.Reachable := by
  induction others with
  | refl => exact reachable
  | tail _ last ih => exact last.reachable ih

theorem reachable_of_among {q : ServiceCall} {a : q.Answer} (answered : among tells note s q a t)
    (reachable : s.state.store.Reachable) : t.state.store.Reachable := by
  rcases answered with ⟨u, others, answered, _⟩
  have between := reachable_of_others others reachable
  rcases answered.store_eq with same | ⟨now, call, changed⟩
  · exact same ▸ between
  · exact changed ▸ between.answer now call

theorem reachable_of_proceeds {kind : ServiceCall → Prop}
    (proceeds : Proceeds (among tells note) kind s t) (reachable : s.state.store.Reachable) :
    t.state.store.Reachable :=
  proceeds.change (fun u v => u.state.store.Reachable → v.state.store.Reachable) (fun _ => id)
    (fun _ _ _ first second => second ∘ first)
    (fun _ _ _ _ _ answered => reachable_of_among answered) reachable

theorem reachable_of_runs_among {α : Type} {p : Routine α} {r : α}
    (ran : Runs (among tells note) p s r t) (reachable : s.state.store.Reachable) :
    t.state.store.Reachable := by
  have asks : Asks (fun _ : service.Question => True) p := asks_of_all fun _ => trivial
  exact reachable_of_proceeds (ran.proceeds asks) reachable

/-- The store answers as it is when the others have acted. -/
theorem among_store {call : StoreCall} {result : Except StoreError call.Result}
    (answered : among tells note s (.store call) result t) :
    ∃ u now, ReflTransGen (Operates tells) s u ∧ result = (u.state.store.answer now call).1 ∧
      t.state = { u.state with store := (u.state.store.answer now call).2 } ∧
      note (.store call) result u.notes t.notes := by
  rcases answered with ⟨u, others, ⟨now, told, left⟩, noted⟩
  exact ⟨u, now, others, told, left, noted⟩

/-- A flow that is found has the id that it was looked up with. -/
theorem id_of_among_getFlow {id : FlowId} {flow : Flow}
    (answered : among tells note s (.store (.getFlow id)) (.ok (some flow)) t) : flow.id = id := by
  rcases among_store answered with ⟨u, now, _, told, _⟩
  have found : u.state.store.getFlow id = some flow := (Except.ok.inj told).symm
  simpa using List.find?_some found

/-- No flow is listed twice. -/
theorem nodup_of_among_listFlows {uid topic : String} {flows : List Flow}
    (answered : among tells note s (.store (.listFlows uid topic)) (.ok flows) t)
    (reachable : s.state.store.Reachable) : (flows.map Flow.id).Nodup := by
  rcases among_store answered with ⟨u, _, others, told, _⟩
  obtain rfl : flows = u.state.store.listFlows uid topic := Except.ok.inj told
  have keyed := (reachable_of_others others reachable).sound.keyed
  exact keyed.flowIds.sublist (List.filter_sublist.map _)

/-- The nodes that are listed for a flow are its own. -/
theorem flowId_of_among_listNodes {flowId : FlowId} {nodes : List Node}
    (answered : among tells note s (.store (.listNodes flowId)) (.ok nodes) t) :
    ∀ node ∈ nodes, node.flowId = flowId := by
  rcases among_store answered with ⟨u, _, _, told, _⟩
  obtain rfl : nodes = u.state.store.listNodes flowId := Except.ok.inj told
  intro node nodeMem
  simpa using (List.mem_filter.mp nodeMem).2

/-- The nodes of a flow are listed under different names. -/
theorem nodup_of_among_listNodes {flowId : FlowId} {nodes : List Node}
    (answered : among tells note s (.store (.listNodes flowId)) (.ok nodes) t)
    (reachable : s.state.store.Reachable) : (nodes.map Node.name).Nodup := by
  rcases among_store answered with ⟨u, _, others, told, _⟩
  obtain rfl : nodes = u.state.store.listNodes flowId := Except.ok.inj told
  have keyed := (reachable_of_others others reachable).sound.keyed .nodes
  have listed := (u.state.store.keys_listNodes_sublist flowId).nodup keyed
  apply List.Nodup.of_map fun name => RowKey.node name.1 name.2
  simpa [Function.comp_def, Row.key, Node.name] using listed

end Others

end EventFlow
