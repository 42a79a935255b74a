import EventFlow.Proofs.Poll.Row

/-!
# Edits of a trigger while it is polled

A poll takes its time, and meanwhile the owner of a flow may edit the trigger.  The poller keeps
the state of the trigger by putting the whole row in place that it has listed.  So an edit that
falls between the listing and the keeping is undone; every other edit stands.
-/

namespace EventFlow

open Program
open Relation (ReflTransGen)

/-! ## What happens to a node -/

/-- What is drawn of a node: all but its state and the time of its last change. -/
def Node.drawing (node : Node) : Node :=
  { node with vars := [], updatedAt := node.createdAt }

/-- What happens to a node: its flow is listed by the poller, its state is saved by the poller, or
others edit it. -/
inductive NodeEvent where
  | listed
  | saved
  | edited (row : Node)

/-- What an event makes of what is drawn of a node, if only edits count. -/
def NodeEvent.redraw (drawing : Node) : NodeEvent → Node
  | .edited row => row.drawing
  | _ => drawing

/-- What is drawn of a node after the last of some edits. -/
def drawingAfter (drawing : Node) (log : List NodeEvent) : Node :=
  log.foldl NodeEvent.redraw drawing

theorem drawingAfter_append (drawing : Node) (log more : List NodeEvent) :
    drawingAfter drawing (log ++ more) = drawingAfter (drawingAfter drawing log) more :=
  List.foldl_append

/-- Where nothing is edited the drawing stays as it is. -/
theorem drawingAfter_of_unedited {drawing : Node} {log : List NodeEvent}
    (unedited : ∀ row, .edited row ∉ log) : drawingAfter drawing log = drawing := by
  induction log with
  | nil => rfl
  | cons event rest ih =>
      have later : ∀ row, .edited row ∉ rest := fun row rowMem =>
        unedited row (List.mem_cons_of_mem event rowMem)
      cases event with
      | edited row => exact absurd List.mem_cons_self (unedited row)
      | listed | saved => exact ih later

/-- Notes the edits of others. -/
def notesEdits (name : FlowId × String) (call : StoreCall) (before after : List NodeEvent) : Prop :=
  after = before ++ ((call.replaces? name).map .edited).toList

/-- What a question of the poller does to a node. -/
def ServiceCall.event? (name : FlowId × String) : ServiceCall → Option NodeEvent
  | .store (.listNodes id) => if id = name.1 then some .listed else none
  | .store (.updateNode node) => if node.name = name then some .saved else none
  | _ => none

/-- Notes what the poller does to a node. -/
def notesEvents (name : FlowId × String) (q : ServiceCall) (_ : q.Answer)
    (before after : List NodeEvent) : Prop :=
  after = before ++ (q.event? name).toList

/-- The answers of tables that others use as well, while notes are kept of what happens to a
node. -/
abbrev editing (name : FlowId × String) : Answering service (Noted Shared (List NodeEvent)) :=
  among (notesEdits name) (notesEvents name)

/-! ## Edits stand -/

variable {name : FlowId × String} {s t u : Noted Shared (List NodeEvent)} {row : Node}
  {log more : List NodeEvent}

/-- Of a node that is drawn in some way something happens, and no edit of it is undone. -/
structure Redraws (name : FlowId × String) (s : Noted Shared (List NodeEvent)) (drawing : Node)
    (log : List NodeEvent) (t : Noted Shared (List NodeEvent)) : Prop where
  notes : t.notes = s.notes ++ log
  reachable : t.state.store.Reachable
  stored : ∃ left, t.state.store.nodeNamed? name = some left ∧
    left.drawing = drawingAfter drawing log

theorem Redraws.refl (reachable : s.state.store.Reachable)
    (stored : s.state.store.nodeNamed? name = some row) : Redraws name s row.drawing [] s :=
  ⟨(List.append_nil _).symm, reachable, row, stored, rfl⟩

theorem Redraws.trans {drawing : Node} (first : Redraws name s drawing log t)
    (later : Redraws name t (drawingAfter drawing log) more u) :
    Redraws name s drawing (log ++ more) u where
  notes := by rw [later.notes, first.notes, List.append_assoc]
  reachable := later.reachable
  stored := by
    rw [drawingAfter_append]
    exact later.stored

theorem Operates.redraws (operates : Operates (notesEdits name) s t)
    (reachable : s.state.store.Reachable) (stored : s.state.store.nodeNamed? name = some row) :
    ∃ log, Redraws name s row.drawing log t ∧ .listed ∉ log ∧ .saved ∉ log := by
  have after := operates.reachable reachable
  cases operates with
  | store now call told =>
      have answered := Store.nodeNamed?_answer reachable.sound stored now call
      refine ⟨_, ⟨told, after, _, answered, ?_⟩, ?_⟩
      · cases call.replaces? name <;> rfl
      · cases call.replaces? name <;> simp
  | queue => exact ⟨[], ⟨(List.append_nil _).symm, after, row, stored, rfl⟩, by simp⟩

theorem redraws_of_others (others : ReflTransGen (Operates (notesEdits name)) s t)
    (reachable : s.state.store.Reachable) (stored : s.state.store.nodeNamed? name = some row) :
    ∃ log, Redraws name s row.drawing log t ∧ .listed ∉ log ∧ .saved ∉ log := by
  induction others with
  | refl => exact ⟨[], .refl reachable stored, by simp⟩
  | tail _ last ih =>
      rcases ih with ⟨log, first, unlisted, unsaved⟩
      rcases first.stored with ⟨between, still, drawn⟩
      rcases last.redraws first.reachable still with ⟨more, later, unlisted', unsaved'⟩
      rw [drawn] at later
      exact ⟨log ++ more, first.trans later, by simp [unlisted, unlisted'],
        by simp [unsaved, unsaved']⟩

/-- The poller itself edits nothing. -/
theorem unedited_of_event? {q : ServiceCall} (row : Node) :
    NodeEvent.edited row ∉ (q.event? name).toList := by
  unfold ServiceCall.event?
  split
  · split <;> simp
  · split <;> simp
  · simp

theorem event?_of_touches {q : ServiceCall} {lists : FlowId → Prop}
    {writes : FlowId × String → Prop} (touches : q.Touches lists writes) (spares : ¬ writes name) :
    q.event? name = none ∨ q.event? name = some .listed ∧ lists name.1 := by
  unfold ServiceCall.Touches at touches
  unfold ServiceCall.event?
  split
  · split
    · rename_i same
      exact .inr ⟨rfl, same ▸ touches⟩
    · exact .inl rfl
  · split
    · rename_i same
      exact absurd (same ▸ touches) spares
    · exact .inl rfl
  · exact .inl rfl

/-- An answer to a question that writes other nodes only undoes no edit. -/
theorem redraws_of_editing {q : ServiceCall} {a : q.Answer} {lists : FlowId → Prop}
    {writes : FlowId × String → Prop} (touches : q.Touches lists writes) (spares : ¬ writes name)
    (answered : editing name s q a t) (reachable : s.state.store.Reachable)
    (stored : s.state.store.nodeNamed? name = some row) :
    ∃ log, Redraws name s row.drawing log t ∧ (¬ lists name.1 → .listed ∉ log) ∧ .saved ∉ log := by
  have after := reachable_of_among answered reachable
  rcases answered with ⟨u, others, answered, noted⟩
  rcases redraws_of_others others reachable stored with ⟨log, first, unlisted, unsaved⟩
  rcases first.stored with ⟨between, still, drawn⟩
  have left := answered.nodeNamed? touches spares first.reachable still
  have own : Redraws name u (drawingAfter row.drawing log) (q.event? name).toList t :=
    ⟨noted, after, between, left,
      drawn.trans (drawingAfter_of_unedited fun _ => unedited_of_event? _).symm⟩
  refine ⟨_, first.trans own, ?_⟩
  rcases event?_of_touches touches spares with none | ⟨listed, lists⟩
  · simp [none, unlisted, unsaved]
  · simp [listed, lists, unsaved]

/-- Nothing that leaves a node alone undoes an edit of it. -/
theorem ProceedsTouching.redraws {lists : FlowId → Prop} {writes : FlowId × String → Prop}
    (proceeds : ProceedsTouching (notesEdits name) (notesEvents name) lists writes s t)
    (spares : ¬ writes name) (reachable : s.state.store.Reachable)
    (stored : s.state.store.nodeNamed? name = some row) :
    ∃ log, Redraws name s row.drawing log t ∧ (¬ lists name.1 → .listed ∉ log) ∧ .saved ∉ log := by
  induction proceeds with
  | refl => exact ⟨[], .refl reachable stored, by simp⟩
  | tail _ last ih =>
      rcases last with ⟨q, a, touches, answered⟩
      rcases ih with ⟨log, first, unlisted, unsaved⟩
      rcases first.stored with ⟨between, still, drawn⟩
      rcases redraws_of_editing touches spares answered first.reachable still with
        ⟨more, later, unlisted', unsaved'⟩
      rw [drawn] at later
      refine ⟨log ++ more, first.trans later, fun shuns => ?_, by simp [unsaved, unsaved']⟩
      simp [unlisted shuns, unlisted' shuns]

/-! ## The edits that are undone -/

/-- The state of a node is saved, and with it the row that was listed: of the drawing nothing but
the edits behind the saving stands. -/
structure Overwrites (name : FlowId × String) (s : Noted Shared (List NodeEvent)) (node : Node)
    (between after : List NodeEvent) (t : Noted Shared (List NodeEvent)) : Prop where
  notes : t.notes = s.notes ++ (between ++ .saved :: after)
  unsaved : .saved ∉ between ++ after
  reachable : t.state.store.Reachable
  stored : ∃ left, t.state.store.nodeNamed? name = some left ∧
    left.drawing = drawingAfter node.drawing after

section Overwrites

variable {node : Node} {drawing : Node} {between after : List NodeEvent}

theorem Redraws.overwrites (first : Redraws name s drawing log t) (unsaved : .saved ∉ log)
    (later : Overwrites name t node between after u) :
    Overwrites name s node (log ++ between) after u where
  notes := by simp [later.notes, first.notes]
  unsaved := by
    have rest := later.unsaved
    simp only [List.mem_append, not_or] at rest ⊢
    exact ⟨⟨unsaved, rest.1⟩, rest.2⟩
  reachable := later.reachable
  stored := later.stored

theorem Overwrites.redraws (first : Overwrites name s node between after t)
    (later : Redraws name t (drawingAfter node.drawing after) more u) (unsaved : .saved ∉ more) :
    Overwrites name s node between (after ++ more) u where
  notes := by simp [later.notes, first.notes]
  unsaved := by
    have rest := first.unsaved
    simp only [List.mem_append, not_or] at rest ⊢
    exact ⟨rest.1, rest.2, unsaved⟩
  reachable := later.reachable
  stored := by
    rw [drawingAfter_append]
    exact later.stored

/-- What leaves a node alone behind a saving undoes nothing more. -/
theorem Overwrites.proceeds {lists : FlowId → Prop} {writes : FlowId × String → Prop}
    (first : Overwrites name s node between after t)
    (later : ProceedsTouching (notesEdits name) (notesEvents name) lists writes t u)
    (spares : ¬ writes name) : ∃ after', Overwrites name s node between after' u := by
  rcases first.stored with ⟨left, stored, drawn⟩
  rcases later.redraws spares first.reachable stored with ⟨more, redraws, _, unsaved⟩
  rw [drawn] at redraws
  exact ⟨after ++ more, first.redraws redraws unsaved⟩

/-- The saving of a state puts back what was listed. -/
theorem overwrites_of_saveState {poller : Poller} {vars : Bag} (named : node.name = name)
    (reachable : s.state.store.Reachable) (stored : s.state.store.nodeNamed? name = some row)
    (ran : Runs (editing name) (poller.saveState { node with vars }) s () t) :
    ∃ between, Overwrites name s node between [] t := by
  have after := reachable_of_runs_among ran reachable
  have kept : ({ node with vars } : Node).name = name := named
  rcases runs_saveState_among kept reachable stored ran with ⟨v, now, others, noted, left⟩
  rcases redraws_of_others others reachable stored with ⟨log, first, _, unsaved⟩
  have saved : t.notes = v.notes ++ [.saved] := by
    simp only [notesEvents, ServiceCall.event?, if_pos kept] at noted
    exact noted
  refine ⟨log, ⟨?_, by simpa using unsaved, after, _, left, rfl⟩⟩
  simp [saved, first.notes]

/-- The flow of a node is listed, with the edits that have been made until then. -/
theorem redraws_of_listed {nodes : List Node}
    (listed : editing name s (.store (.listNodes name.1)) (.ok nodes) t)
    (reachable : s.state.store.Reachable) (stored : s.state.store.nodeNamed? name = some row)
    (nodeMem : node ∈ nodes) (named : node.name = name) :
    ∃ log, Redraws name s row.drawing (log ++ [.listed]) t ∧ .listed ∉ log ∧ .saved ∉ log ∧
      t.state.store.nodeNamed? name = some node ∧
      node.drawing = drawingAfter row.drawing log := by
  have still := nodeNamed?_of_listed listed reachable nodeMem named
  have after := reachable_of_among listed reachable
  rcases listed with ⟨u, others, answered, noted⟩
  rcases redraws_of_others others reachable stored with ⟨log, first, unlisted, unsaved⟩
  rcases first.stored with ⟨left, between, drawn⟩
  have lists : ServiceCall.Touches (fun _ => True) (fun _ => False) (.store (.listNodes name.1)) :=
    trivial
  have same := answered.nodeNamed? lists id first.reachable between
  obtain rfl : node = left := Option.some.inj (still.symm.trans same)
  have marked : t.notes = u.notes ++ [.listed] := by
    simp only [notesEvents, ServiceCall.event?, if_true] at noted
    exact noted
  refine ⟨log, ⟨?_, after, node, still, ?_⟩, unlisted, unsaved, still, drawn⟩
  · simp [marked, first.notes]
  · rw [drawingAfter_append, drawn]
    rfl

end Overwrites

namespace Poller

variable {poller : Poller} {flow : Flow} {node : Node} {report : TickReport}
  {visits : List Visit} {r : Except String TickReport}

/-- A node that is taken up keeps all edits, or its state is saved. -/
theorem TakesUp.redraws_or_overwrites
    (takesUp : TakesUp poller (editing name) flow node report s visits r t)
    (named : node.name = name) (reachable : s.state.store.Reachable)
    (stored : s.state.store.nodeNamed? name = some row) :
    Beside (notesEdits name) (notesEvents name) name s t ∨
      ∃ between after, Overwrites name s node between after t := by
  cases takesUp with
  | passed => exact .inl (.refl _)
  | early _ read _ =>
      have looks : ServiceCall.now.Touches (fun _ => True) (· ≠ name) := trivial
      exact .inl (Proceeds.single looks read)
  | brokeDown _ polls _ => exact .inl polls.touches
  | unschedulable _ polls _ _ => exact .inl polls.touches
  | settled _ polls _ _ saved submitted =>
      have polled : Beside (notesEdits name) (notesEvents name) name _ _ := polls.touches
      rcases polled.redraws (fun other => other rfl) reachable stored with ⟨log, first, _, unsaved⟩
      rcases first.stored with ⟨left, still, _⟩
      rcases overwrites_of_saveState named first.reachable still saved with ⟨between, overwrites⟩
      rcases overwrites.proceeds (submitEvents_touches submitted) id with ⟨after, ended⟩
      exact .inr ⟨_, after, first.overwrites unsaved ended⟩

theorem Takes.redraws_or_overwrites
    (takes : Takes poller (notesEdits name) (notesEvents name) flow node s visits t)
    (named : node.name = name) (reachable : s.state.store.Reachable)
    (stored : s.state.store.nodeNamed? name = some row) :
    Beside (notesEdits name) (notesEvents name) name s t ∨
      ∃ between after, Overwrites name s node between after t := by
  subst named
  cases takes with
  | take before takesUp after _ _ =>
      rcases before.redraws (fun other => other rfl) reachable stored with ⟨log, first, _, unsaved⟩
      rcases first.stored with ⟨left, still, _⟩
      rcases takesUp.redraws_or_overwrites rfl first.reachable still with
        beside | ⟨between, more, overwrites⟩
      · exact .inl ((before.trans beside).trans after)
      · rcases overwrites.proceeds after (fun other => other rfl) with ⟨more, ended⟩
        exact .inr ⟨_, more, first.overwrites unsaved ended⟩

/-- The edits of a node during a tick stand, except those that fall between the listing of its
flow and the saving of its state. -/
theorem tick_undoes_edits_between {s : Shared} (reachable : s.store.Reachable)
    (stored : s.store.nodeNamed? name = some row)
    (ran : Runs (editing name) poller.tick ⟨s, []⟩ r t) :
    ∃ left, t.state.store.nodeNamed? name = some left ∧
      ((.saved ∉ t.notes ∧ left.drawing = drawingAfter row.drawing t.notes) ∨
        ∃ before between after,
          t.notes = before ++ .listed :: (between ++ .saved :: after) ∧
          .listed ∉ before ∧ .saved ∉ before ++ between ++ after ∧
          left.drawing = drawingAfter row.drawing (before ++ after) ∧
          ((∀ edit, .edited edit ∉ between) →
            left.drawing = drawingAfter row.drawing t.notes)) := by
  rcases ticks_of_runs ran with ⟨visits, ticks⟩
  have unsaved {u : Noted Shared (List NodeEvent)}
      (beside : Beside (notesEdits name) (notesEvents name) name ⟨s, []⟩ u) :
      ∃ left, u.state.store.nodeNamed? name = some left ∧
        (.saved ∉ u.notes ∧ left.drawing = drawingAfter row.drawing u.notes) := by
    rcases beside.redraws (fun other => other rfl) reachable stored with ⟨log, redraws, _, unsaved⟩
    rcases redraws.stored with ⟨left, still, drawn⟩
    have notes : u.notes = log := redraws.notes
    exact ⟨left, still, notes ▸ unsaved, notes ▸ drawn⟩
  cases Ticks.meets reachable ticks with
  | never beside _ =>
      rcases unsaved beside with ⟨left, still, stands⟩
      exact ⟨left, still, .inl stands⟩
  | once before listed nodeMem named takes _ =>
      rcases before.redraws (fun other => other rfl) reachable stored with
        ⟨log, first, unlisted, unsaved₁⟩
      rcases first.stored with ⟨edited, still, drawn⟩
      rcases redraws_of_listed listed first.reachable still nodeMem named with
        ⟨more, second, unlisted', unsaved₂, found, drawn'⟩
      rcases takes.redraws_or_overwrites named second.reachable found with
        beside | ⟨between, after, overwrites⟩
      · have lists : ServiceCall.Touches (fun _ => True) (· ≠ name) (.store (.listNodes name.1)) :=
          trivial
        have first := before.mono (fun _ _ => trivial) fun _ other => other
        rcases unsaved ((first.trans (Proceeds.single lists listed)).trans beside) with
          ⟨left, still, stands⟩
        exact ⟨left, still, .inl stands⟩
      · rcases overwrites.stored with ⟨left, still, drawnAgain⟩
        have notes : t.notes = (log ++ more) ++ .listed :: (between ++ .saved :: after) := by
          simp [overwrites.notes, second.notes, first.notes]
        have drawnAfter : left.drawing = drawingAfter row.drawing (log ++ more ++ after) := by
          rw [drawnAgain, drawn', drawn, drawingAfter_append, drawingAfter_append]
        refine ⟨left, still, .inr ⟨log ++ more, between, after, notes, ?_, ?_, drawnAfter, ?_⟩⟩
        · simp [unlisted (fun other => other rfl), unlisted']
        · have rest := overwrites.unsaved
          simp only [List.mem_append, not_or] at rest ⊢
          exact ⟨⟨⟨unsaved₁, unsaved₂⟩, rest.1⟩, rest.2⟩
        · -- The listing and the saving are no edits, and between them there is none.
          intro unedited
          rw [notes, drawnAfter, drawingAfter_append, drawingAfter_append _ (log ++ more)]
          change _ = drawingAfter (drawingAfter row.drawing (log ++ more)) (between ++ _)
          rw [drawingAfter_append _ between, drawingAfter_of_unedited unedited]
          rfl

end Poller

/-! ## An edit during a slow poll -/

namespace Feed

/-- The trigger under another label. -/
def relabelled : Node :=
  { stored with label := "new" }

/-- An answer to every question.  While the trigger is polled its owner gives it another label. -/
def relabelling (s : Noted Shared (List NodeEvent)) :
    (q : ServiceCall) → q.Answer × Noted Shared (List NodeEvent)
  | .invoke _ _ _ (.poll _) _ =>
      (.returned (.ok ⟨[], some [("cursor", .ofInt 7)]⟩),
        ⟨{ s.state with store := (s.state.store.answer start (.updateNode relabelled)).2 },
          s.notes ++ [.edited relabelled]⟩)
  | q => ((s.state.answerAt start q).1,
      ⟨(s.state.answerAt start q).2, s.notes ++ (q.event? feed.name).toList⟩)

theorem editing_relabelling (s : Noted Shared (List NodeEvent)) (q : ServiceCall) :
    editing feed.name s q (relabelling s q).1 (relabelling s q).2 := by
  have alone : editing feed.name s q (s.state.answerAt start q).1
      ⟨(s.state.answerAt start q).2, s.notes ++ (q.event? feed.name).toList⟩ :=
    ⟨s, .refl, s.state.answers_answerAt start q, rfl⟩
  cases q with
  | invoke handle context params request limit =>
      cases request with
      | poll state =>
          have named : relabelled.name = feed.name := rfl
          refine ⟨_, .single (.store start (.updateNode relabelled) rfl), rfl, ?_⟩
          simp [relabelling, notesEvents, ServiceCall.event?, StoreCall.replaces?, named]
      | extract | run => exact alone
  | _ => exact alone

/-- A tick while which the trigger is given another label. -/
def ticked : Except String TickReport × Noted Shared (List NodeEvent) :=
  poller.tick.run relabelling ⟨⟨store, .empty⟩, []⟩

end Feed
/-- The trigger is given another label while it is polled, and has its old one after the tick. -/
theorem edit_undone_by_slow_poll :
    ∃ t, Runs (editing Feed.feed.name) Feed.poller.tick ⟨⟨Feed.store, .empty⟩, []⟩
        (.ok ⟨1, 0, 0⟩) t ∧
      (drawingAfter Feed.feed.drawing t.notes).label = "new" ∧
      (t.state.store.nodeNamed? Feed.feed.name).map Node.label = some "old" := by
  have ended : Feed.ticked.1 = .ok ⟨1, 0, 0⟩ := by decide +kernel
  have ran := runs_run Feed.editing_relabelling Feed.poller.tick ⟨⟨Feed.store, .empty⟩, []⟩
  change Runs _ _ _ Feed.ticked.1 Feed.ticked.2 at ran
  rw [ended] at ran
  have labels : (drawingAfter Feed.feed.drawing Feed.ticked.2.notes).label = "new" ∧
      (Feed.ticked.2.state.store.nodeNamed? Feed.feed.name).map Node.label = some "old" := by
    decide +kernel
  exact ⟨Feed.ticked.2, ran, labels⟩

/-- What the tick does to the edit of the trigger. -/
theorem tick_undoes_edits_between_feed :
    Feed.store.Reachable ∧ Feed.store.nodeNamed? Feed.feed.name = some Feed.stored ∧
    ∃ left, Feed.ticked.2.state.store.nodeNamed? Feed.feed.name = some left ∧
      ((.saved ∉ Feed.ticked.2.notes ∧
          left.drawing = drawingAfter Feed.stored.drawing Feed.ticked.2.notes) ∨
        ∃ before between after,
          Feed.ticked.2.notes = before ++ .listed :: (between ++ .saved :: after) ∧
          .listed ∉ before ∧ .saved ∉ before ++ between ++ after ∧
          left.drawing = drawingAfter Feed.stored.drawing (before ++ after) ∧
          ((∀ edit, .edited edit ∉ between) →
            left.drawing = drawingAfter Feed.stored.drawing Feed.ticked.2.notes)) := by
  have ran := runs_run Feed.editing_relabelling Feed.poller.tick ⟨⟨Feed.store, .empty⟩, []⟩
  exact ⟨Feed.reachable, Feed.found, Poller.tick_undoes_edits_between Feed.reachable Feed.found ran⟩

end EventFlow
