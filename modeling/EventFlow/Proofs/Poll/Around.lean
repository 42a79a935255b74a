import EventFlow.Proofs.Engine.Questions
import EventFlow.Proofs.Others
import EventFlow.Proofs.Poll.Visits

/-!
# One trigger during a tick

A tick lists the nodes of each flow once and takes up each of them once.  So what it does to
one node is told in a few words: before its flow is listed, nothing is asked about it; after
that its state is written where it is taken up, and nowhere else.
-/

namespace EventFlow

open Program

/-- Questions that list the nodes of certain flows only, and write certain nodes only. -/
def ServiceCall.Touches (lists : FlowId → Prop) (writes : FlowId × String → Prop) :
    ServiceCall → Prop
  | .store (.listNodes id) => lists id
  | .store (.updateNode node) => writes node.name
  | _ => True

theorem ServiceCall.Touches.mono {lists moreLists : FlowId → Prop}
    {writes moreWrites : FlowId × String → Prop} {q : ServiceCall}
    (touches : q.Touches lists writes)
    (ofLists : ∀ id, lists id → moreLists id) (ofWrites : ∀ name, writes name → moreWrites name) :
    q.Touches moreLists moreWrites := by
  unfold Touches at touches ⊢
  split at touches
  · exact ofLists _ touches
  · exact ofWrites _ touches
  · trivial

/-- The execution of a flow lists the nodes of no other flow, and writes none. -/
theorem ServiceCall.touches_of_ofExecution {flowId : FlowId} {q : ServiceCall}
    (ofExecution : q.ofExecution flowId = true) : q.Touches (· = flowId) (fun _ => False) := by
  unfold Touches
  split
  · simpa [ServiceCall.ofExecution, ServiceCall.ofWalk] using ofExecution
  · contradiction
  · trivial

/-- The program asks nothing but what touches certain flows and nodes. -/
abbrev AsksTouching {α : Type} (lists : FlowId → Prop) (writes : FlowId × String → Prop)
    (p : Routine α) : Prop :=
  Asks (fun q : service.Question => ServiceCall.Touches lists writes q) p

/-- Trying something again touches what it touches. -/
theorem retryFrom_touches {α ε : Type} {lists : FlowId → Prop} {writes : FlowId × String → Prop}
    {config : RetryConfig} {interrupt : Signal} {operation : Routine (Except ε α)}
    {left attempt : Nat} {delay : Duration} (asks : AsksTouching lists writes operation) :
    AsksTouching lists writes (retryFrom config interrupt operation left attempt delay) := by
  induction left generalizing attempt delay with
  | zero =>
      rw [retryFrom.eq_def]
      apply asks.bind
      rintro (_ | _) <;> trivial
  | succ left ih =>
      rw [retryFrom.eq_def]
      apply asks.bind
      rintro (e | a)
      · refine ⟨trivial, fun interrupted => ?_⟩
        cases interrupted with
        | true => trivial
        | false => exact ih
      · trivial

section Among

variable {N : Type} {tells : StoreCall → N → N → Prop}
  {note : (q : ServiceCall) → q.Answer → N → N → Prop} {s t : Noted Shared N}

/-- Tables among others go on by answers to questions that touch certain flows and nodes. -/
abbrev ProceedsTouching (tells : StoreCall → N → N → Prop)
    (note : (q : ServiceCall) → q.Answer → N → N → Prop) (lists : FlowId → Prop)
    (writes : FlowId × String → Prop) : Noted Shared N → Noted Shared N → Prop :=
  Proceeds (among tells note) (ServiceCall.Touches lists writes)

theorem ProceedsTouching.mono {lists moreLists : FlowId → Prop}
    {writes moreWrites : FlowId × String → Prop}
    (proceeds : ProceedsTouching tells note lists writes s t)
    (ofLists : ∀ id, lists id → moreLists id) (ofWrites : ∀ name, writes name → moreWrites name) :
    ProceedsTouching tells note moreLists moreWrites s t :=
  Proceeds.mono proceeds fun _ touches => touches.mono ofLists ofWrites

variable {name : FlowId × String}

/-- A node is left alone. -/
abbrev Beside (tells : StoreCall → N → N → Prop)
    (note : (q : ServiceCall) → q.Answer → N → N → Prop) (name : FlowId × String) :
    Noted Shared N → Noted Shared N → Prop :=
  ProceedsTouching tells note (fun _ => True) (· ≠ name)

/-- A node is left alone, and the nodes of its flow are not listed. -/
abbrev Unseen (tells : StoreCall → N → N → Prop)
    (note : (q : ServiceCall) → q.Answer → N → N → Prop) (name : FlowId × String) :
    Noted Shared N → Noted Shared N → Prop :=
  ProceedsTouching tells note (· ≠ name.1) (· ≠ name)

theorem ProceedsTouching.beside {lists : FlowId → Prop} {writes : FlowId × String → Prop}
    (proceeds : ProceedsTouching tells note lists writes s t) (spares : ¬ writes name) :
    Beside tells note name s t :=
  proceeds.mono (fun _ _ => trivial) fun _ writes same => spares (same ▸ writes)

theorem ProceedsTouching.unseen {lists : FlowId → Prop} {writes : FlowId × String → Prop}
    (proceeds : ProceedsTouching tells note lists writes s t) (shuns : ¬ lists name.1)
    (spares : ¬ writes name) : Unseen tells note name s t :=
  proceeds.mono (fun _ lists same => shuns (same ▸ lists)) fun _ writes same =>
    spares (same ▸ writes)

/-! ## What the parts of a tick touch -/

namespace QueueManager

theorem enqueue_touches (manager : QueueManager) (request : FlowRequest) {lists : FlowId → Prop}
    {writes : FlowId × String → Prop} : AsksTouching lists writes (manager.enqueue request) := by
  unfold enqueue
  split
  · refine ⟨trivial, fun found => ?_⟩
    match found with
    | .error e => trivial
    | .ok none => trivial
    | .ok (some flow) =>
        change AsksTouching _ _ (if flow.enabled = true then _ else _)
        split
        · refine ⟨trivial, fun now => ⟨trivial, fun id => ?_⟩⟩
          have pushes (job : QueueJob) : AsksTouching lists writes (Service.queue (.push job)) :=
            ⟨trivial, fun _ => trivial⟩
          apply (retryFrom_touches (pushes _)).bind
          rintro (_ | _) <;> trivial
        · trivial
  · trivial

/-- The submission of a request lists the nodes of no other flow, and writes none. -/
theorem submit_touches {manager : QueueManager} {request : FlowRequest}
    {r : Except EngineError Submission}
    (ran : Runs (among tells note) (manager.submit request) s r t) :
    ProceedsTouching tells note (· = request.flowId) (fun _ => False) s t := by
  rcases runs_bind_iff.mp ran with ⟨queued, u, enqueuing, ran⟩
  refine (enqueuing.proceeds (manager.enqueue_touches request)).trans ?_
  cases queued with
  | ok id =>
      rcases runs_done_iff.mp ran with ⟨_, rfl⟩
      exact .refl _
  | error e =>
      rcases runs_bind_iff.mp ran with ⟨result, v, executing, ended⟩
      have same : t = v := by
        cases result <;> exact (runs_done_iff.mp ended).2
      subst same
      rcases runs_ask_iff.mp executing with ⟨id, w, named, executing⟩
      refine (Proceeds.single trivial named).trans ?_
      rcases runs_ask_iff.mp executing with ⟨found, x, looked, executing⟩
      refine (Proceeds.single trivial looked).trans ?_
      match found with
      | .error e =>
          rcases runs_done_iff.mp executing with ⟨_, rfl⟩
          exact .refl _
      | .ok none =>
          rcases runs_done_iff.mp executing with ⟨_, rfl⟩
          exact .refl _
      | .ok (some flow) =>
          have own : flow.id = request.flowId := id_of_among_getFlow looked
          have asks : AsksTouching (· = request.flowId) (fun _ => False)
              (manager.engine.runFlow flow id request) :=
            own ▸ (Engine.runFlow_asks manager.engine flow id request).mono
              fun _ => ServiceCall.touches_of_ofExecution
          refine executing.proceeds ?_
          change AsksTouching _ _ (if flow.enabled = true then _ else _)
          split
          · apply asks.bind
            rintro (_ | _) <;> trivial
          · trivial

end QueueManager

namespace Poller

variable {poller : Poller} {flow : Flow} {node : Node} {report : TickReport}
  {visits : List Visit} {r : Except String TickReport}

theorem submitEvents_touches {events : List Bag} {after : TickReport}
    (ran : Runs (among tells note) (poller.submitEvents flow node events report) s after t) :
    ProceedsTouching tells note (· = flow.id) (fun _ => False) s t := by
  induction events generalizing s report with
  | nil =>
      rcases runs_done_iff.mp ran with ⟨_, rfl⟩
      exact .refl _
  | cons event rest ih =>
      rcases runs_bind_iff.mp ran with ⟨submitted, u, submitting, ran⟩
      refine (QueueManager.submit_touches submitting).trans ?_
      cases submitted <;> exact ih ran

theorem asks_touches {rule : TriggerRule} {lists : FlowId → Prop}
    {writes : FlowId × String → Prop} : AsksTouching lists writes (poller.asks rule flow node) := by
  unfold asks TriggerRule.poll
  split
  · trivial
  · exact ⟨trivial, fun _ => trivial⟩

theorem Polls.touches {visit : Visit} {reply : Reply PollResult} {lists : FlowId → Prop}
    {writes : FlowId × String → Prop} (polls : Polls poller (among tells note) visit reply s t) :
    ProceedsTouching tells note lists writes s t := by
  rcases polls with ⟨u, read, _, replied⟩
  exact (Proceeds.single trivial read).trans (replied.proceeds asks_touches)

/-- What is done to a node when it is taken up touches its flow and the node. -/
theorem TakesUp.touches
    (takesUp : TakesUp poller (among tells note) flow node report s visits r t) :
    ProceedsTouching tells note (· = flow.id) (· = node.name) s t := by
  cases takesUp with
  | passed => exact .refl _
  | early _ read _ =>
      have looks : ServiceCall.now.Touches (· = flow.id) (· = node.name) := trivial
      exact Proceeds.single looks read
  | brokeDown _ polls _ => exact polls.touches
  | unschedulable _ polls _ _ => exact polls.touches
  | settled _ polls _ _ saved submitted =>
      have writes (vars : Bag) : AsksTouching (· = flow.id) (· = node.name)
          (Service.store (.updateNode { node with vars })) := ⟨rfl, fun _ => trivial⟩
      have saves (vars : Bag) : AsksTouching (· = flow.id) (· = node.name)
          (poller.saveState { node with vars }) :=
        (retryFrom_touches (writes vars)).bind fun _ => trivial
      refine (polls.touches.trans (saved.proceeds (saves _))).trans ?_
      exact (submitEvents_touches submitted).mono (fun _ own => own) fun _ never => never.elim

theorem TakesUpAll.touches {nodes : List Node}
    (takesUp : TakesUpAll poller (among tells note) flow nodes report s visits r t) :
    ProceedsTouching tells note (· = flow.id) (· ∈ nodes.map Node.name) s t := by
  induction takesUp with
  | finished => exact .refl _
  | broken breaks =>
      exact breaks.touches.mono (fun _ own => own) fun _ here => here ▸ List.mem_cons_self
  | wentOn first _ ih =>
      refine (first.touches.mono (fun _ own => own) fun _ here => ?_).trans
        (ih.mono (fun _ own => own) fun _ there => ?_)
      · exact here ▸ List.mem_cons_self
      · exact List.mem_cons_of_mem _ there

/-- The visits of nodes are visits of theirs. -/
theorem TakesUp.node_eq
    (takesUp : TakesUp poller (among tells note) flow node report s visits r t) :
    ∀ visit ∈ visits, visit.node = node := by
  cases takesUp <;> simp

theorem TakesUpAll.mem_nodes {nodes : List Node}
    (takesUp : TakesUpAll poller (among tells note) flow nodes report s visits r t) :
    ∀ visit ∈ visits, visit.node ∈ nodes := by
  induction takesUp with
  | finished => simp
  | broken breaks =>
      intro visit visitMem
      exact breaks.node_eq visit visitMem ▸ List.mem_cons_self
  | wentOn first _ ih =>
      intro visit visitMem
      rcases List.mem_append.mp visitMem with here | there
      · exact first.node_eq visit here ▸ List.mem_cons_self
      · exact List.mem_cons_of_mem _ (ih visit there)

theorem Stops.touches {stop : Bool} {lists : FlowId → Prop} {writes : FlowId × String → Prop}
    (told : Stops (among tells note) stop s t) : ProceedsTouching tells note lists writes s t := by
  have asks : ServiceCall.Touches lists writes (.isGiven .pollerStop) := trivial
  exact Proceeds.single asks told

theorem Lists.touches {listed : Except StoreError (List Node)} {lists : FlowId → Prop}
    {writes : FlowId × String → Prop} (listing : Lists (among tells note) flow listed s t)
    (own : lists flow.id) : ProceedsTouching tells note lists writes s t := by
  rcases listing with ⟨u, told, listed⟩
  have asks : ServiceCall.Touches lists writes (.store (.listNodes flow.id)) := own
  exact told.touches.trans (Proceeds.single asks listed)

/-- The nodes of a flow that have been listed are taken up without touching other flows. -/
theorem TakesUpAll.touches_flow {nodes : List Node} {u : Noted Shared N}
    (listing : Lists (among tells note) flow (.ok nodes) u s)
    (takesUp : TakesUpAll poller (among tells note) flow (nodes.filter Node.isTrigger) report s
      visits r t) :
    ProceedsTouching tells note (· = flow.id) (·.1 = flow.id) s t ∧
      ∀ visit ∈ visits, visit.node.flowId = flow.id := by
  rcases listing with ⟨_, _, listed⟩
  have own := flowId_of_among_listNodes listed
  constructor
  · refine takesUp.touches.mono (fun _ here => here) fun name nameMem => ?_
    rcases List.mem_map.mp nameMem with ⟨node, nodeMem, rfl⟩
    exact own node (List.mem_of_mem_filter nodeMem)
  · intro visit visitMem
    exact own visit.node (List.mem_of_mem_filter (takesUp.mem_nodes visit visitMem))

/-- Flows are gone through without touching others. -/
theorem GoesThrough.touches {flows : List Flow}
    (went : GoesThrough poller (among tells note) flows report s visits r t) :
    ProceedsTouching tells note (· ∈ flows.map Flow.id) (·.1 ∈ flows.map Flow.id) s t ∧
      ∀ visit ∈ visits, visit.node.flowId ∈ flows.map Flow.id := by
  have first {flow : Flow} {rest : List Flow} {id : FlowId} (here : id = flow.id) :
      id ∈ (flow :: rest).map Flow.id := here ▸ List.mem_cons_self
  have later {flow : Flow} {rest : List Flow} {id : FlowId} (there : id ∈ rest.map Flow.id) :
      id ∈ (flow :: rest).map Flow.id := List.mem_cons_of_mem _ there
  induction went with
  | finished => exact ⟨.refl _, by simp⟩
  | stopped told => exact ⟨told.touches, by simp⟩
  | unlisted refused _ ih =>
      constructor
      · exact (refused.touches (first rfl)).trans (ih.1.mono (fun _ => later) fun _ => later)
      · exact fun visit visitMem => later (ih.2 visit visitMem)
  | broken listed breaks =>
      have taken := breaks.touches_flow listed
      constructor
      · exact (listed.touches (first rfl)).trans (taken.1.mono (fun _ => first) fun _ => first)
      · exact fun visit visitMem => first (taken.2 visit visitMem)
  | wentOn listed takes _ ih =>
      have taken := takes.touches_flow listed
      constructor
      · exact ((listed.touches (first rfl)).trans
          (taken.1.mono (fun _ => first) fun _ => first)).trans
          (ih.1.mono (fun _ => later) fun _ => later)
      · intro visit visitMem
        rcases List.mem_append.mp visitMem with here | there
        · exact first (taken.2 visit here)
        · exact later (ih.2 visit there)

/-! ## One node -/

/-- The visits of other nodes. -/
abbrev Elsewhere (name : FlowId × String) (visits : List Visit) : Prop :=
  ∀ visit ∈ visits, visit.node.name ≠ name

/-- A node is taken up, and left alone before and after. -/
inductive Takes (poller : Poller) (tells : StoreCall → N → N → Prop)
    (note : (q : ServiceCall) → q.Answer → N → N → Prop) (flow : Flow) (node : Node) :
    Noted Shared N → List Visit → Noted Shared N → Prop where
  | take {s a b t : Noted Shared N} {report : TickReport} {front visits back : List Visit}
      {r : Except String TickReport} (before : Beside tells note node.name s a)
      (takesUp : TakesUp poller (among tells note) flow node report a visits r b)
      (after : Beside tells note node.name b t) (first : Elsewhere node.name front)
      (last : Elsewhere node.name back) :
      Takes poller tells note flow node s (front ++ visits ++ back) t

/-- What a tick does to a node: it leaves it alone, or it lists it once, takes it up behind that
once, and leaves it alone otherwise. -/
inductive Meets (poller : Poller) (tells : StoreCall → N → N → Prop)
    (note : (q : ServiceCall) → q.Answer → N → N → Prop) (name : FlowId × String) :
    Noted Shared N → List Visit → Noted Shared N → Prop where
  | never {s t : Noted Shared N} {visits : List Visit} (beside : Beside tells note name s t)
      (elsewhere : Elsewhere name visits) : Meets poller tells note name s visits t
  | once {s a b t : Noted Shared N} {flow : Flow} {nodes : List Node} {node : Node}
      {front visits : List Visit} (before : Unseen tells note name s a)
      (listed : among tells note a (.store (.listNodes name.1)) (.ok nodes) b)
      (nodeMem : node ∈ nodes) (named : node.name = name)
      (takes : Takes poller tells note flow node b visits t) (first : Elsewhere name front) :
      Meets poller tells note name s (front ++ visits) t

theorem Elsewhere.nil : Elsewhere name [] := by
  simp [Elsewhere]

theorem Elsewhere.append {front back : List Visit} (first : Elsewhere name front)
    (last : Elsewhere name back) : Elsewhere name (front ++ back) := by
  intro visit visitMem
  rcases List.mem_append.mp visitMem with here | there
  · exact first visit here
  · exact last visit there

theorem TakesUp.takes (takesUp : TakesUp poller (among tells note) flow node report s visits r t) :
    Takes poller tells note flow node s visits t := by
  have takes := Takes.take (.refl s) takesUp (.refl t) .nil .nil
  rwa [List.nil_append, List.append_nil] at takes

theorem Takes.before {front : List Visit} {u : Noted Shared N}
    (beside : Beside tells note node.name s t) (elsewhere : Elsewhere node.name front)
    (takes : Takes poller tells note flow node t visits u) :
    Takes poller tells note flow node s (front ++ visits) u := by
  cases takes with
  | take before takesUp after first last =>
      have takes := Takes.take (beside.trans before) takesUp after (elsewhere.append first) last
      simpa only [List.append_assoc] using takes

theorem Takes.after {back : List Visit} {u : Noted Shared N}
    (takes : Takes poller tells note flow node s visits t)
    (beside : Beside tells note node.name t u) (elsewhere : Elsewhere node.name back) :
    Takes poller tells note flow node s (visits ++ back) u := by
  cases takes with
  | take before takesUp after first last =>
      have takes := Takes.take before takesUp (after.trans beside) first (last.append elsewhere)
      simpa only [List.append_assoc] using takes

theorem TakesUp.elsewhere
    (takesUp : TakesUp poller (among tells note) flow node report s visits r t)
    (other : node.name ≠ name) : Elsewhere name visits := by
  intro visit visitMem
  rw [takesUp.node_eq visit visitMem]
  exact other

theorem TakesUpAll.elsewhere {nodes : List Node}
    (takesUp : TakesUpAll poller (among tells note) flow nodes report s visits r t)
    (others : name ∉ nodes.map Node.name) : Elsewhere name visits := by
  intro visit visitMem same
  exact others (same ▸ List.mem_map_of_mem (takesUp.mem_nodes visit visitMem))

/-- Nodes of different names are taken up: a node is among them and taken up once, or it is left
alone. -/
theorem TakesUpAll.around {nodes : List Node} (distinct : (nodes.map Node.name).Nodup)
    (takesUp : TakesUpAll poller (among tells note) flow nodes report s visits r t) :
    (Beside tells note name s t ∧ Elsewhere name visits) ∨
      ∃ node ∈ nodes, node.name = name ∧ Takes poller tells note flow node s visits t := by
  induction takesUp with
  | finished => exact .inl ⟨.refl _, .nil⟩
  | @broken node _ _ _ _ _ _ breaks =>
      by_cases here : node.name = name
      · exact .inr ⟨node, List.mem_cons_self, here, breaks.takes⟩
      · exact .inl ⟨breaks.touches.beside (Ne.symm here), breaks.elsewhere here⟩
  | @wentOn node _ _ _ _ _ _ _ _ _ first later ih =>
      rcases List.nodup_cons.mp distinct with ⟨new, distinct⟩
      by_cases here : node.name = name
      · subst here
        refine .inr ⟨node, List.mem_cons_self, rfl, ?_⟩
        exact first.takes.after (later.touches.beside new) (later.elsewhere new)
      · have beside := first.touches.beside (Ne.symm here)
        rcases ih distinct with ⟨alone, elsewhere⟩ | ⟨other, otherMem, rfl, takes⟩
        · exact .inl ⟨beside.trans alone, (first.elsewhere here).append elsewhere⟩
        · exact .inr ⟨other, List.mem_cons_of_mem _ otherMem, rfl,
            takes.before beside (first.elsewhere here)⟩

theorem Meets.before {front : List Visit} {u : Noted Shared N} (unseen : Unseen tells note name s t)
    (elsewhere : Elsewhere name front) (meets : Meets poller tells note name t visits u) :
    Meets poller tells note name s (front ++ visits) u := by
  cases meets with
  | never beside others =>
      exact .never ((unseen.mono (fun _ _ => trivial) fun _ other => other).trans beside)
        (elsewhere.append others)
  | once before listed nodeMem named takes first =>
      have meets := Meets.once (unseen.trans before) listed nodeMem named takes
        (elsewhere.append first)
      simpa only [List.append_assoc] using meets

theorem Meets.after {back : List Visit} {u : Noted Shared N}
    (meets : Meets poller tells note name s visits t) (beside : Beside tells note name t u)
    (elsewhere : Elsewhere name back) : Meets poller tells note name s (visits ++ back) u := by
  cases meets with
  | never alone others => exact .never (alone.trans beside) (others.append elsewhere)
  | once before listed nodeMem named takes first =>
      subst named
      have meets := Meets.once before listed nodeMem rfl (takes.after beside elsewhere) first
      simpa only [List.append_assoc] using meets

/-- The nodes of a flow are listed and taken up. -/
theorem TakesUpAll.meets {nodes : List Node} {u : Noted Shared N}
    (reachable : s.state.store.Reachable) (listing : Lists (among tells note) flow (.ok nodes) s t)
    (takesUp : TakesUpAll poller (among tells note) flow (nodes.filter Node.isTrigger) report t
      visits r u) : Meets poller tells note name s visits u := by
  have taken := takesUp.touches_flow listing
  by_cases own : flow.id = name.1
  · rcases listing with ⟨v, told, listed⟩
    have distinct := nodup_of_among_listNodes listed (reachable_of_among told reachable)
    rcases takesUp.around (distinct.sublist (List.filter_sublist.map _)) with
      ⟨beside, elsewhere⟩ | ⟨node, nodeMem, named, takes⟩
    · refine .never ((told.touches.trans (Proceeds.single ?_ listed)).trans beside) elsewhere
      exact trivial
    · rw [own] at listed
      exact Meets.once told.touches listed (List.mem_of_mem_filter nodeMem) named takes .nil
  · have spares : ¬ name.1 = flow.id := Ne.symm own
    refine .never (((listing.touches trivial).trans (taken.1.beside spares))) ?_
    intro visit visitMem same
    exact own ((taken.2 visit visitMem).symm.trans (congrArg Prod.fst same))

theorem GoesThrough.beside {flows : List Flow} (others : name.1 ∉ flows.map Flow.id)
    (went : GoesThrough poller (among tells note) flows report s visits r t) :
    Beside tells note name s t ∧ Elsewhere name visits := by
  constructor
  · exact went.touches.1.beside others
  · rintro visit visitMem rfl
    exact others (went.touches.2 visit visitMem)

theorem GoesThrough.meets {flows : List Flow} (distinct : (flows.map Flow.id).Nodup)
    (reachable : s.state.store.Reachable)
    (went : GoesThrough poller (among tells note) flows report s visits r t) :
    Meets poller tells note name s visits t := by
  induction went with
  | finished => exact .never (.refl _) .nil
  | stopped told => exact .never told.touches .nil
  | broken listed breaks => exact breaks.meets reachable listed
  | @unlisted flow _ _ _ _ _ _ _ _ refused later ih =>
      rcases List.nodup_cons.mp distinct with ⟨new, distinct⟩
      by_cases own : flow.id = name.1
      · have rest := later.beside (own ▸ new)
        exact .never ((refused.touches trivial).trans rest.1) rest.2
      · have unseen : Unseen tells note name _ _ := refused.touches own
        have between := reachable_of_proceeds unseen reachable
        exact Meets.before unseen .nil (ih distinct between)
  | @wentOn flow _ _ _ _ _ _ _ _ _ _ _ listed first later ih =>
      rcases List.nodup_cons.mp distinct with ⟨new, distinct⟩
      by_cases own : flow.id = name.1
      · have rest := later.beside (own ▸ new)
        exact (first.meets reachable listed).after rest.1 rest.2
      · have taken := first.touches_flow listed
        have unseen : Unseen tells note name _ _ := (listed.touches own).trans
          (taken.1.unseen (Ne.symm own) (Ne.symm own))
        refine Meets.before unseen ?_ (ih distinct (reachable_of_proceeds unseen reachable))
        rintro visit visitMem rfl
        exact own (taken.2 visit visitMem).symm

/-- A tick takes up a node once at the most. -/
theorem Ticks.meets (reachable : s.state.store.Reachable)
    (ticks : Ticks poller (among tells note) s visits r t) :
    Meets poller tells note name s visits t := by
  have lists : ServiceCall.Touches (· ≠ name.1) (· ≠ name) (.store (.listFlows "" "")) := trivial
  cases ticks with
  | unlisted refused =>
      exact Meets.before (Proceeds.single lists refused) .nil (.never (.refl _) .nil)
  | @listed _ _ flows _ _ listed went =>
      have distinct : ((flows.filter (·.enabled)).map Flow.id).Nodup :=
        (nodup_of_among_listFlows listed reachable).sublist (List.filter_sublist.map Flow.id)
      have between := reachable_of_among listed reachable
      exact Meets.before (Proceeds.single lists listed) .nil (went.meets distinct between)

end Poller

end Among

end EventFlow
