import EventFlow.Proofs.Store.WellFormed

/-!
# What an operation writes

The rows of all tables are seen as rows of one kind, each known by a key of its own
table.  An operation that is not refused reads, adds one row under a new key, or puts
one row in the place of the one that has its key.  Which row it is can be told from
the operation, the number that was given last and the time.
-/

namespace EventFlow

/-! ## Rows and their keys -/

/-- A row of any table. -/
inductive Row where
  | flow (row : Flow)
  | node (row : Node)
  | edge (row : Edge)
  | execution (row : Execution)
  | job (row : Job)
  | rateLimit (row : RateLimit)

/-- What a row is known by. -/
inductive RowKey where
  | flow (id : FlowId)
  | node (flowId : FlowId) (nodeId : String)
  | edge (id : Int)
  | execution (id : ExecutionId)
  | job (id : FlowJobId)
  | rateLimit (id : RateLimitId)
  deriving DecidableEq

/-- The key of a row. -/
def Row.key : Row → RowKey
  | .flow row => .flow row.id
  | .node row => .node row.flowId row.nodeId
  | .edge row => .edge row.id
  | .execution row => .execution row.executionId
  | .job row => .job row.id
  | .rateLimit row => .rateLimit row.id

namespace Row

/-- Is it a flow of an owner and a topic?  The empty text stands for any. -/
def isFlowOf (uid topic : String) : Row → Bool
  | .flow row => (uid == "" || row.uid == uid) && (topic == "" || row.topic == topic)
  | _ => false

/-- Is it a node of a flow? -/
def isNodeOf (flowId : FlowId) : Row → Bool
  | .node row => row.flowId == flowId
  | _ => false

/-- Is it an edge of a flow? -/
def isEdgeOf (flowId : FlowId) : Row → Bool
  | .edge row => row.flowId == flowId
  | _ => false

/-- Is it a job of an execution? -/
def isJobOf (id : ExecutionId) : Row → Bool
  | .job row => row.executionId == id
  | _ => false

/-- Is it a rate limit for a node of a flow? -/
def isLimitOn (flowId : FlowId) (nodeId : String) : Row → Bool
  | .rateLimit row => row.appliesTo flowId nodeId
  | _ => false

end Row

namespace RowKey

/-- The table that a key belongs to. -/
def table : RowKey → StoreTable
  | .flow _ => .flows
  | .node _ _ => .nodes
  | .edge _ => .edges
  | .execution _ => .executions
  | .job _ => .jobs
  | .rateLimit _ => .rateLimits

/-- The number that a key is, if it is one. -/
def number? : RowKey → Option Int
  | .flow id => some id.value
  | .edge id => some id
  | .job id => some id.value
  | .rateLimit id => some id.value
  | .node _ _ => none
  | .execution _ => none

end RowKey

namespace Store

/-- The rows of a table in the order of their creation.  Only executions are kept in
another order, with the latest first. -/
def rows (s : Store) : StoreTable → List Row
  | .flows => s.flows.map .flow
  | .nodes => s.nodes.map .node
  | .edges => s.edges.map .edge
  | .executions => s.executions.reverse.map .execution
  | .jobs => s.jobs.map .job
  | .rateLimits => s.rateLimits.map .rateLimit

/-- The keys of a table in the order of the creation of their rows. -/
def keys (s : Store) (table : StoreTable) : List RowKey :=
  (s.rows table).map Row.key

/-- The row that is read back under a key. -/
def read (s : Store) : RowKey → Option Row
  | .flow id => (s.getFlow id).map .flow
  | .node flowId nodeId =>
    ((s.listNodes flowId).find? fun node => node.nodeId == nodeId).map .node
  | .edge id => (s.edges.find? fun edge => edge.id == id).map .edge
  | .execution id => (s.getExecution id).map .execution
  | .job id => (s.jobs.find? fun job => job.id == id).map .job
  | .rateLimit id => (s.rateLimits.find? fun rule => rule.id == id).map .rateLimit

/-- Is the row shown by an operation?  Flows and executions are asked for by their ids, all other
rows are listed with those that belong to the same. -/
def Shows (s : Store) : Row → Prop
  | .flow row => s.getFlow row.id = some row
  | .node row => row ∈ s.listNodes row.flowId
  | .edge row => row ∈ s.listEdges row.flowId
  | .execution row => s.getExecution row.executionId = some row
  | .job row => row ∈ s.listJobs row.executionId
  | .rateLimit row => ∃ flowId nodeId, row ∈ s.listRateLimits flowId nodeId

/-- No two rows of a table share a key. -/
def Keyed (s : Store) : Prop :=
  ∀ table, (s.keys table).Nodup

/-- Keys are different within their table.  Those that are numbers grow along their table, are
positive, do not exceed the number that was given last, and belong to one table only. -/
structure Sound (s : Store) : Prop where
  keyed : s.Keyed
  counted : 0 ≤ s.lastId
  increasing : ∀ table, ((s.keys table).filterMap RowKey.number?).Pairwise (· < ·)
  within : ∀ key ∈ s.keys key.table, ∀ number, key.number? = some number →
    0 < number ∧ number ≤ s.lastId
  apart : ∀ key ∈ s.keys key.table, ∀ other ∈ s.keys other.table, ∀ number,
    key.number? = some number → other.number? = some number → key.table = other.table

theorem table_of_mem_rows {s : Store} {table : StoreTable} {row : Row}
    (rowMem : row ∈ s.rows table) : row.key.table = table := by
  cases table <;> rcases List.mem_map.mp rowMem with ⟨_, _, rfl⟩ <;> rfl

theorem table_of_mem_keys {s : Store} {table : StoreTable} {key : RowKey}
    (keyMem : key ∈ s.keys table) : key.table = table := by
  rcases List.mem_map.mp keyMem with ⟨row, rowMem, rfl⟩
  exact table_of_mem_rows rowMem

/-- Where keys are different, a row that is stored is the one that is found under its key. -/
theorem find?_key_eq_some_iff {rows : List Row} (distinct : (rows.map Row.key).Nodup) {key : RowKey}
    {row : Row} : (rows.find? fun other => other.key == key) = some row ↔
      row ∈ rows ∧ row.key = key := by
  constructor
  · intro found
    exact ⟨List.mem_of_find?_eq_some found, by simpa using List.find?_some found⟩
  · rintro ⟨rowMem, rfl⟩
    cases found : rows.find? fun other => other.key == row.key with
    | none => simpa using List.find?_eq_none.mp found row rowMem
    | some other =>
        have sameKey : other.key = row.key := by simpa using List.find?_some found
        rw [List.inj_on_of_nodup_map distinct (List.mem_of_find?_eq_some found) rowMem sameKey]

/-- A row that is found in a table is found among the rows of all kinds. -/
theorem find?_inject {α : Type} {inject : α → Row} {p : α → Bool} {key : RowKey}
    (byKey : ∀ a, p a = ((inject a).key == key)) (rows : List α) :
    (rows.find? p).map inject = (rows.map inject).find? fun row => row.key == key := by
  rw [List.find?_map]
  congr 2
  funext a
  exact byKey a

/-- What is read back under a key is the row of its table that has the key. -/
theorem Keyed.read_eq {s : Store} (keyed : s.Keyed) (key : RowKey) :
    s.read key = (s.rows key.table).find? fun row => row.key == key := by
  cases key with
  | flow id => exact find?_inject (fun row => by simp [Row.key]) s.flows
  | edge id => exact find?_inject (fun row => by simp [Row.key]) s.edges
  | job id => exact find?_inject (fun row => by simp [Row.key]) s.jobs
  | rateLimit id => exact find?_inject (fun row => by simp [Row.key]) s.rateLimits
  | node flowId nodeId =>
      rw [read, listNodes, List.find?_filter]
      exact find?_inject (fun row => by rw [Bool.eq_iff_iff]; simp [Row.key]) s.nodes
  | execution id =>
      -- The first row of the list is the last one of the table, and there is one at the most.
      have inject : (s.executions.find? fun e => e.executionId == id).map Row.execution =
          (s.executions.map Row.execution).find? fun row => row.key == .execution id :=
        find?_inject (fun row => by simp [Row.key]) s.executions
      have distinct : ((s.executions.map Row.execution).map Row.key).Nodup := by
        have reversed := keyed .executions
        simpa [keys, rows, List.nodup_reverse] using reversed
      rw [read, getExecution, inject]
      apply Option.ext
      intro row
      rw [find?_key_eq_some_iff distinct, find?_key_eq_some_iff (keyed _)]
      simp [RowKey.table, rows]

/-- What is read back under its own key is what is stored. -/
theorem Keyed.read_key_iff {s : Store} (keyed : s.Keyed) {row : Row} :
    s.read row.key = some row ↔ row ∈ s.rows row.key.table := by
  rw [keyed.read_eq, find?_key_eq_some_iff (keyed _), and_iff_left rfl]

/-- There are a flow and a node that a rate limit applies to. -/
theorem exists_appliesTo (rule : RateLimit) :
    ∃ flowId nodeId, rule.appliesTo flowId nodeId = true := by
  refine ⟨rule.flowId.getD ⟨0⟩, rule.nodeId.getD "", ?_⟩
  cases flow : rule.flowId <;> cases node : rule.nodeId <;> simp [RateLimit.appliesTo, flow, node]

/-- The operations show what is read back, and nothing else. -/
theorem Keyed.shows_iff {s : Store} (keyed : s.Keyed) {row : Row} :
    s.Shows row ↔ s.read row.key = some row := by
  cases row with
  | flow row => simp [Shows, Row.key, read]
  | execution row => simp [Shows, Row.key, read]
  | node row =>
      rw [keyed.read_key_iff]
      simp [Shows, Row.key, RowKey.table, rows, listNodes]
  | edge row =>
      rw [keyed.read_key_iff]
      simp [Shows, Row.key, RowKey.table, rows, listEdges]
  | job row =>
      rw [keyed.read_key_iff]
      simp [Shows, Row.key, RowKey.table, rows, listJobs]
  | rateLimit row =>
      rw [keyed.read_key_iff]
      simp [Shows, Row.key, RowKey.table, rows, listRateLimits, exists_appliesTo]

/-- The rows of a table are those that are read back under its keys, in order. -/
theorem Keyed.rows_eq {s : Store} (keyed : s.Keyed) (table : StoreTable) :
    s.rows table = (s.keys table).filterMap s.read := by
  have same : ∀ row ∈ s.rows table, s.read row.key = some row := fun row rowMem =>
    keyed.read_key_iff.mpr (table_of_mem_rows rowMem ▸ rowMem)
  rw [keys, List.filterMap_map]
  exact ((List.filterMap_congr same).trans List.filterMap_some).symm

/-- The ids of flows are different. -/
theorem Keyed.flowIds {s : Store} (keyed : s.Keyed) : (s.flows.map Flow.id).Nodup := by
  apply List.Nodup.of_map RowKey.flow
  simpa [keys, rows, Function.comp_def, Row.key] using keyed .flows

/-- The row of a flow is found under its id. -/
theorem Keyed.getFlow {s : Store} (keyed : s.Keyed) {flow : Flow} (flowMem : flow ∈ s.flows) :
    s.getFlow flow.id = some flow := by
  have found : s.read (.flow flow.id) = some (.flow flow) := by
    rw [keyed.read_eq]
    exact (find?_key_eq_some_iff (keyed _)).mpr ⟨List.mem_map_of_mem flowMem, rfl⟩
  simpa [read] using found

end Store

/-! ## What is written -/

namespace StoreCall

/-- The row that an operation writes if it is not refused, when the next number and the
time are known. -/
def row? (number : Int) (now : Instant) : StoreCall → Option Row
  | .createFlow flow => some (.flow { flow with id := ⟨number⟩ })
  | .updateFlow flow => some (.flow { flow with updatedAt := now })
  | .createNode node => some (.node { node with id := number })
  | .updateNode node => some (.node { node with updatedAt := now })
  | .createEdge edge => some (.edge { edge with id := number })
  | .createExecution execution => some (.execution execution)
  | .updateExecution execution => some (.execution execution)
  | .createJob job => some (.job { job with id := ⟨number⟩ })
  | .updateJob job => some (.job job)
  | .createRateLimit rule => some (.rateLimit { rule with id := ⟨number⟩ })
  | _ => none

/-- Does the operation add a row? -/
def creates : StoreCall → Bool
  | .createFlow _ => true
  | .createNode _ => true
  | .createEdge _ => true
  | .createExecution _ => true
  | .createJob _ => true
  | .createRateLimit _ => true
  | _ => false

/-- The row that an operation returns, if it returns the one that it has written. -/
def returned? : (call : StoreCall) → call.Result → Option Row
  | .createFlow _, row => some (.flow row)
  | .createNode _, row => some (.node row)
  | .createEdge _, row => some (.edge row)
  | .createJob _, row => some (.job row)
  | .createRateLimit _, row => some (.rateLimit row)
  | _, _ => none

/-- The error of an operation that is refused: that the key is taken already, or that
there is no row with the key. -/
def refusal? : StoreCall → Option StoreError
  | .updateFlow flow => some (.notFound .flow flow.id.display)
  | .createNode node => some (.conflict .node node.nodeId)
  | .updateNode node => some (.notFound .node node.nodeId)
  | .createExecution execution => some (.conflict .execution execution.executionId.text)
  | .updateExecution execution => some (.notFound .execution execution.executionId.text)
  | .updateJob job => some (.notFound .job job.id.display)
  | _ => none

end StoreCall

namespace Store

/-- A row has been added at the end of its table, under a new key.  The number that was
given last has been counted up, unless executions are added, which bring their ids. -/
structure Adds (row : Row) (s t : Store) : Prop where
  new : row.key ∉ s.keys row.key.table
  here : t.rows row.key.table = s.rows row.key.table ++ [row]
  elsewhere : ∀ table, table ≠ row.key.table → t.rows table = s.rows table
  numbered : ∀ number, row.key.number? = some number → number = s.lastId + 1
  lastId : t.lastId = s.lastId + if row.key.table = .executions then 0 else 1

/-- A row has taken the place of the one with its key. -/
structure Puts (row : Row) (s t : Store) : Prop where
  here : ∃ front old back, s.rows row.key.table = front ++ old :: back ∧ old.key = row.key ∧
    (∀ other ∈ front ++ back, other.key ≠ row.key) ∧
    t.rows row.key.table = front ++ row :: back
  elsewhere : ∀ table, table ≠ row.key.table → t.rows table = s.rows table
  lastId : t.lastId = s.lastId

/-- What an operation does at a time, and what it returns: it only reads, it adds a row or
puts one in its place, or it is refused and changes nothing. -/
inductive Does (now : Instant) (call : StoreCall) (s : Store) :
    Except StoreError call.Result → Store → Prop where
  | read {result : call.Result} (nothing : call.row? (s.lastId + 1) now = none) :
      Does now call s (.ok result) s
  | add {result : call.Result} {t : Store} {row : Row} (creates : call.creates = true)
      (written : call.row? (s.lastId + 1) now = some row)
      (returned : ∀ other, call.returned? result = some other → other = row)
      (adds : Adds row s t) : Does now call s (.ok result) t
  | put {result : call.Result} {t : Store} {row : Row} (creates : call.creates = false)
      (written : call.row? (s.lastId + 1) now = some row) (puts : Puts row s t) :
      Does now call s (.ok result) t
  | refuse {e : StoreError} {row : Row} (written : call.row? (s.lastId + 1) now = some row)
      (taken : row.key ∈ s.keys row.key.table ↔ call.creates = true)
      (told : call.refusal? = some e) : Does now call s (.error e) s

variable {s t : Store} {row : Row} {now : Instant}

/-! ## Adding a row -/

/-- A number that is given next is the key of no row. -/
theorem Sound.new (sound : s.Sound) {key : RowKey} (next : key.number? = some (s.lastId + 1)) :
    key ∉ s.keys key.table := by
  intro keyMem
  have within := sound.within key keyMem _ next
  omega

/-- A row under the next number is added. -/
theorem Sound.adds (sound : s.Sound) (next : row.key.number? = some (s.lastId + 1))
    (here : t.rows row.key.table = s.rows row.key.table ++ [row])
    (elsewhere : ∀ table, table ≠ row.key.table → t.rows table = s.rows table)
    (lastId : t.lastId = s.lastId + 1) : Adds row s t where
  new := sound.new next
  here := here
  elsewhere := elsewhere
  numbered number same := Option.some.inj (same.symm.trans next)
  lastId := by
    rw [lastId, if_neg]
    intro executions
    cases key : row.key <;> simp_all [RowKey.number?, RowKey.table]

theorem Sound.createFlow (sound : s.Sound) (flow : Flow) :
    Adds (.flow { flow with id := ⟨s.lastId + 1⟩ }) s (s.createFlow flow).2 := by
  apply sound.adds rfl _ _ rfl
  · simp [rows, Store.createFlow, Row.key, RowKey.table]
  · rintro (_ | _) other <;> first | rfl | contradiction

theorem Sound.createEdge (sound : s.Sound) (edge : Edge) :
    Adds (.edge { edge with id := s.lastId + 1 }) s (s.createEdge edge).2 := by
  apply sound.adds rfl _ _ rfl
  · simp [rows, Store.createEdge, Row.key, RowKey.table]
  · rintro (_ | _) other <;> first | rfl | contradiction

theorem Sound.createJob (sound : s.Sound) (job : Job) :
    Adds (.job { job with id := ⟨s.lastId + 1⟩ }) s (s.createJob job).2 := by
  apply sound.adds rfl _ _ rfl
  · simp [rows, Store.createJob, Row.key, RowKey.table]
  · rintro (_ | _) other <;> first | rfl | contradiction

theorem Sound.createRateLimit (sound : s.Sound) (rule : RateLimit) :
    Adds (.rateLimit { rule with id := ⟨s.lastId + 1⟩ }) s (s.createRateLimit rule).2 := by
  apply sound.adds rfl _ _ rfl
  · simp [rows, Store.createRateLimit, Row.key, RowKey.table]
  · rintro (_ | _) other <;> first | rfl | contradiction

theorem mem_keys_nodes_iff {flowId : FlowId} {nodeId : String} :
    RowKey.node flowId nodeId ∈ s.keys .nodes ↔
      ∃ node ∈ s.nodes, node.flowId = flowId ∧ node.nodeId = nodeId := by
  simp [keys, rows, Row.key]

theorem mem_keys_executions_iff {id : ExecutionId} :
    RowKey.execution id ∈ s.keys .executions ↔ (s.getExecution id).isSome = true := by
  simp [keys, rows, Row.key, getExecution]

/-- A node is added unless its flow has one of its name. -/
theorem does_createNode (node : Node) : Does now (.createNode node) s
    (s.answer now (.createNode node)).1 (s.answer now (.createNode node)).2 := by
  have taken_iff : (s.nodes.any fun n => sameNode n node) = true ↔
      RowKey.node node.flowId node.nodeId ∈ s.keys .nodes := by
    simp [mem_keys_nodes_iff, sameNode]
  by_cases taken : s.nodes.any fun n => sameNode n node
  · simp only [answer, createNode, taken, if_true]
    exact .refuse rfl (iff_of_true (taken_iff.mp taken) rfl) rfl
  · simp only [answer, createNode, taken]
    have written : StoreCall.row? (s.lastId + 1) now (.createNode node) =
        some (.node { node with id := s.lastId + 1 }) := rfl
    refine .add rfl written (fun _ same => (Option.some.inj same).symm) ?_
    constructor
    · exact fun keyMem => taken (taken_iff.mpr keyMem)
    · simp [rows, Row.key, RowKey.table]
    · rintro (_ | _) other <;> first | rfl | contradiction
    · rintro number ⟨⟩
    · simp [Row.key, RowKey.table]

/-- An execution is added unless its id is taken. -/
theorem does_createExecution (execution : Execution) : Does now (.createExecution execution) s
    (s.answer now (.createExecution execution)).1
    (s.answer now (.createExecution execution)).2 := by
  by_cases taken : (s.getExecution execution.executionId).isSome
  · simp only [answer, createExecution, taken, if_true]
    have keyMem : RowKey.execution execution.executionId ∈ s.keys .executions :=
      mem_keys_executions_iff.mpr taken
    exact .refuse rfl (iff_of_true keyMem rfl) rfl
  · simp only [answer, createExecution, taken]
    have silent : ∀ row, StoreCall.returned? (.createExecution execution) () = some row →
        row = .execution execution := by
      intro _ same
      cases same
    refine .add rfl rfl silent ?_
    constructor
    · exact fun keyMem => taken (mem_keys_executions_iff.mp keyMem)
    · simp [rows, Store.changed, Row.key, RowKey.table]
    · rintro (_ | _) other <;> first | rfl | contradiction
    · rintro number ⟨⟩
    · simp [Store.changed, Row.key, RowKey.table]

/-! ## Replacing a row -/

section Replace

variable {α : Type} {inject : α → Row} {p : α → Bool} {new : α} {among changed : List α}

/-- The only row with a key is replaced where it stands. -/
theorem splits_of_replaceFirst? (byKey : ∀ a, p a = true ↔ (inject a).key = (inject new).key)
    (distinct : ((among.map inject).map Row.key).Nodup)
    (replaced : replaceFirst? p new among = some changed) :
    ∃ front old back, among.map inject = front ++ old :: back ∧ old.key = (inject new).key ∧
      (∀ other ∈ front ++ back, other.key ≠ (inject new).key) ∧
      changed.map inject = front ++ inject new :: back := by
  rcases replaceFirst?_eq_some replaced with ⟨front, old, back, rfl, found, _, rfl⟩
  refine ⟨front.map inject, inject old, back.map inject, by simp, (byKey old).mp found, ?_,
    by simp⟩
  intro other otherMem sameKey
  rw [List.map_append, List.map_cons, List.map_append, List.map_cons, List.nodup_middle,
    List.nodup_cons, ← List.map_append] at distinct
  apply distinct.1
  rw [(byKey old).mp found, ← sameKey]
  exact List.mem_map_of_mem otherMem

/-- No row has the key when none is replaced. -/
theorem not_mem_of_replaceFirst? (byKey : ∀ a, p a = true ↔ (inject a).key = (inject new).key)
    (missing : replaceFirst? p new among = none) :
    (inject new).key ∉ (among.map inject).map Row.key := by
  intro keyMem
  rcases List.mem_map.mp keyMem with ⟨_, injected, sameKey⟩
  rcases List.mem_map.mp injected with ⟨a, aMem, rfl⟩
  rw [← byKey, replaceFirst?_eq_none_iff.mp missing a aMem] at sameKey
  contradiction

end Replace

theorem Keyed.does_updateFlow (keyed : s.Keyed) (flow : Flow) : Does now (.updateFlow flow) s
    (s.answer now (.updateFlow flow)).1 (s.answer now (.updateFlow flow)).2 := by
  have byKey (row : Flow) : (row.id == flow.id) = true ↔
      (Row.flow row).key = (Row.flow { flow with updatedAt := now }).key := by simp [Row.key]
  rw [answer, updateFlow]
  split
  · rename_i replaced
    refine .put rfl rfl ⟨splits_of_replaceFirst? byKey (keyed .flows) replaced, ?_, rfl⟩
    rintro (_ | _) other <;> first | rfl | contradiction
  · rename_i missing
    exact .refuse rfl (iff_of_false (not_mem_of_replaceFirst? byKey missing) Bool.false_ne_true) rfl

theorem Keyed.does_updateNode (keyed : s.Keyed) (node : Node) : Does now (.updateNode node) s
    (s.answer now (.updateNode node)).1 (s.answer now (.updateNode node)).2 := by
  have byKey (row : Node) : sameNode row node = true ↔
      (Row.node row).key = (Row.node { node with updatedAt := now }).key := by
    simp [Row.key, sameNode]
  rw [answer, updateNode]
  split
  · rename_i replaced
    refine .put rfl rfl ⟨splits_of_replaceFirst? byKey (keyed .nodes) replaced, ?_, rfl⟩
    rintro (_ | _) other <;> first | rfl | contradiction
  · rename_i missing
    exact .refuse rfl (iff_of_false (not_mem_of_replaceFirst? byKey missing) Bool.false_ne_true) rfl

theorem Keyed.does_updateJob (keyed : s.Keyed) (job : Job) : Does now (.updateJob job) s
    (s.answer now (.updateJob job)).1 (s.answer now (.updateJob job)).2 := by
  have byKey (row : Job) : (row.id == job.id) = true ↔ (Row.job row).key = (Row.job job).key := by
    simp [Row.key]
  rw [answer, updateJob]
  split
  · rename_i replaced
    refine .put rfl rfl ⟨splits_of_replaceFirst? byKey (keyed .jobs) replaced, ?_, rfl⟩
    rintro (_ | _) other <;> first | rfl | contradiction
  · rename_i missing
    exact .refuse rfl (iff_of_false (not_mem_of_replaceFirst? byKey missing) Bool.false_ne_true) rfl

theorem Keyed.does_updateExecution (keyed : s.Keyed) (execution : Execution) :
    Does now (.updateExecution execution) s (s.answer now (.updateExecution execution)).1
      (s.answer now (.updateExecution execution)).2 := by
  have byKey (row : Execution) : (row.executionId == execution.executionId) = true ↔
      (Row.execution row).key = (Row.execution execution).key := by simp [Row.key]
  rw [answer, updateExecution]
  split
  · rename_i replaced
    have distinct : ((s.executions.map Row.execution).map Row.key).Nodup := by
      have reversed := keyed .executions
      simpa [keys, rows, List.nodup_reverse] using reversed
    rcases splits_of_replaceFirst? byKey distinct replaced with
      ⟨front, old, back, split, sameKey, others, changed⟩
    refine .put rfl rfl ⟨⟨back.reverse, old, front.reverse, ?_, sameKey, ?_, ?_⟩, ?_, rfl⟩
    · simp [Row.key, RowKey.table, rows, split]
    · intro other otherMem
      exact others other (by simpa [or_comm] using otherMem)
    · simp [Row.key, RowKey.table, rows, Store.changed, changed]
    · rintro (_ | _) other <;> first | rfl | contradiction
  · rename_i missing
    refine .refuse rfl (iff_of_false ?_ Bool.false_ne_true) rfl
    have absent := not_mem_of_replaceFirst? byKey missing
    simpa [Row.key, RowKey.table, keys, rows] using absent

/-! ## Operations -/

/-- An operation on a sound store does what is said of it. -/
theorem Sound.does (sound : s.Sound) (now : Instant) (call : StoreCall) :
    Does now call s (s.answer now call).1 (s.answer now call).2 := by
  cases call with
  | createFlow flow =>
      exact .add rfl rfl (fun _ same => (Option.some.inj same).symm) (sound.createFlow flow)
  | createEdge edge =>
      exact .add rfl rfl (fun _ same => (Option.some.inj same).symm) (sound.createEdge edge)
  | createJob job =>
      exact .add rfl rfl (fun _ same => (Option.some.inj same).symm) (sound.createJob job)
  | createRateLimit rule =>
      exact .add rfl rfl (fun _ same => (Option.some.inj same).symm) (sound.createRateLimit rule)
  | createNode node => exact does_createNode node
  | createExecution execution => exact does_createExecution execution
  | updateFlow flow => exact sound.keyed.does_updateFlow flow
  | updateNode node => exact sound.keyed.does_updateNode node
  | updateExecution execution => exact sound.keyed.does_updateExecution execution
  | updateJob job => exact sound.keyed.does_updateJob job
  | getFlow | listFlows | listNodes | listEdges | getExecution | listExecutions | listJobs
  | listRateLimits => exact .read rfl

end Store

end EventFlow
