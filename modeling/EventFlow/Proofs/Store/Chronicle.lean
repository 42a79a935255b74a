import EventFlow.Proofs.Store.Row
import Mathlib.Data.List.Infix

/-!
# The chronicle of a store

Of every operation that writes a row a note is taken.  The notes tell all that is to be
known of the tables: their keys are those that have been added, in this order, and the
row under a key is the one that was written last.  So no row is ever lost or moved, and
what is read back is what was written.
-/

namespace EventFlow

/-! ## Notes -/

/-- A row that has been written, and whether it was added. -/
structure Write where
  row : Row
  added : Bool

namespace Write

/-- The keys that have been added to a table, in order. -/
def addedTo (log : List Write) (table : StoreTable) : List RowKey :=
  (log.filter fun write => write.added && write.row.key.table == table).map (·.row.key)

/-- The row that was written last under a key. -/
def latest? (log : List Write) (key : RowKey) : Option Row :=
  (log.reverse.find? fun write => write.row.key == key).map (·.row)

/-- The rows of a table as they were written last, in the order in which they have been added. -/
def written (log : List Write) (table : StoreTable) : List Row :=
  (addedTo log table).filterMap (latest? log)

/-- Has the row been given a number? -/
def isNumbered (write : Write) : Bool :=
  write.added && write.row.key.table != .executions

theorem addedTo_append_singleton (log : List Write) (write : Write) (table : StoreTable) :
    addedTo (log ++ [write]) table = addedTo log table ++
      if write.added = true ∧ write.row.key.table = table then [write.row.key] else [] := by
  by_cases here : write.added = true ∧ write.row.key.table = table
  · simp [addedTo, here]
  · rw [if_neg here]
    simpa [addedTo, List.filter_append] using here

theorem latest?_append_singleton (log : List Write) (write : Write) (key : RowKey) :
    latest? (log ++ [write]) key =
      if write.row.key = key then some write.row else latest? log key := by
  by_cases here : write.row.key = key <;> simp [latest?, here]

end Write

/-! ## What is written changes the tables -/

namespace Store

variable {s t : Store} {row : Row}

theorem keys_eq_of_rows_eq {table : StoreTable} (same : t.rows table = s.rows table) :
    t.keys table = s.keys table := by
  rw [keys, same, keys]

/-- A row that is added adds its key. -/
theorem Adds.keys (adds : Adds row s t) (table : StoreTable) :
    t.keys table = s.keys table ++ if row.key.table = table then [row.key] else [] := by
  by_cases here : row.key.table = table
  · subst here
    simp [Store.keys, adds.here]
  · simp [keys_eq_of_rows_eq (adds.elsewhere table (Ne.symm here)), here]

/-- A row that is put in the place of another leaves the keys as they are. -/
theorem Puts.keys (puts : Puts row s t) (table : StoreTable) : t.keys table = s.keys table := by
  by_cases here : row.key.table = table
  · subst here
    rcases puts.here with ⟨front, old, back, before, sameKey, _, after⟩
    simp [Store.keys, before, after, sameKey]
  · exact keys_eq_of_rows_eq (puts.elsewhere table (Ne.symm here))

/-- The row that is added is found under its key, and nothing else is found elsewhere. -/
theorem Adds.read (adds : Adds row s t) (before : s.Keyed) (after : t.Keyed) (key : RowKey) :
    t.read key = if row.key = key then some row else s.read key := by
  rw [after.read_eq, before.read_eq]
  by_cases sameKey : row.key = key
  · subst sameKey
    rw [if_pos rfl, find?_key_eq_some_iff (after _), adds.here]
    simp
  · rw [if_neg sameKey]
    by_cases here : row.key.table = key.table
    · rw [← here, adds.here, List.find?_append]
      simp [sameKey]
    · rw [adds.elsewhere _ (Ne.symm here)]

/-- The row that is put in a place is found under its key, and nothing else is found
elsewhere. -/
theorem Puts.read (puts : Puts row s t) (before : s.Keyed) (after : t.Keyed) (key : RowKey) :
    t.read key = if row.key = key then some row else s.read key := by
  rw [after.read_eq, before.read_eq]
  by_cases sameKey : row.key = key
  · subst sameKey
    rw [if_pos rfl, find?_key_eq_some_iff (after _)]
    rcases puts.here with ⟨front, old, back, _, _, _, placed⟩
    rw [placed]
    simp
  · rw [if_neg sameKey]
    by_cases here : row.key.table = key.table
    · rcases puts.here with ⟨front, old, back, stood, oldKey, _, placed⟩
      rw [← here, stood, placed]
      simp [List.find?_append, sameKey, oldKey]
    · rw [puts.elsewhere _ (Ne.symm here)]

/-! ## Soundness -/

theorem keys_empty (table : StoreTable) : empty.keys table = [] := by
  cases table <;> rfl

theorem sound_empty : Sound empty where
  keyed table := by simp [keys_empty]
  counted := Int.le_refl 0
  increasing table := by simp [keys_empty]
  within := by simp [keys_empty]
  apart := by simp [keys_empty]

/-- A store with the same keys and the same last number is as sound. -/
theorem Sound.of_same_keys (sound : s.Sound) (keys : ∀ table, t.keys table = s.keys table)
    (lastId : t.lastId = s.lastId) : t.Sound where
  keyed table := by
    rw [keys]
    exact sound.keyed table
  counted := lastId ▸ sound.counted
  increasing table := by
    rw [keys]
    exact sound.increasing table
  within := by
    simp only [keys, lastId]
    exact sound.within
  apart := by
    simp only [keys]
    exact sound.apart

theorem Adds.mem_keys_iff (adds : Adds row s t) {key : RowKey} :
    key ∈ t.keys key.table ↔ key ∈ s.keys key.table ∨ key = row.key := by
  rw [adds.keys, List.mem_append]
  by_cases same : key = row.key
  · simp [same]
  · split <;> simp [same]

/-- The number of a row that is added is the one that has been given last, and exceeds all that
were given before. -/
theorem Adds.number (adds : Adds row s t) {number : Int}
    (numbered : row.key.number? = some number) : s.lastId < number ∧ number = t.lastId := by
  have next := adds.numbered number numbered
  have counted : t.lastId = s.lastId + 1 := by
    rw [adds.lastId, if_neg]
    intro executions
    cases key : row.key <;> simp_all [RowKey.number?, RowKey.table]
  omega

theorem Adds.keyed (adds : Adds row s t) (keyed : s.Keyed) : t.Keyed := by
  intro table
  rw [adds.keys]
  split
  · rename_i here
    subst here
    apply List.nodup_append.mpr
    refine ⟨keyed _, List.nodup_singleton _, ?_⟩
    rintro key keyMem _ otherMem rfl
    obtain rfl := List.mem_singleton.mp otherMem
    exact adds.new keyMem
  · simpa using keyed table

theorem Sound.increasing_of_adds (sound : s.Sound) (adds : Adds row s t) (table : StoreTable) :
    ((t.keys table).filterMap RowKey.number?).Pairwise (· < ·) := by
  rw [adds.keys]
  split
  · rename_i here
    subst here
    rw [List.filterMap_append]
    refine List.pairwise_append.mpr ⟨sound.increasing _, ?_, ?_⟩
    · rw [List.filterMap_cons]
      split <;> simp
    · intro earlier earlierMem number numberMem
      rcases List.mem_filterMap.mp earlierMem with ⟨key, keyMem, numbered⟩
      rcases List.mem_filterMap.mp numberMem with ⟨_, ofRow, next⟩
      rw [List.mem_singleton.mp ofRow] at next
      rw [← table_of_mem_keys keyMem] at keyMem
      exact Int.lt_of_le_of_lt (sound.within key keyMem earlier numbered).2 (adds.number next).1
  · simpa using sound.increasing table

/-- A row that is added keeps a store sound. -/
theorem Sound.add (sound : s.Sound) (adds : Adds row s t) : t.Sound := by
  have later : s.lastId ≤ t.lastId := by
    rw [adds.lastId]
    split <;> omega
  -- A number that has been given before is not the one of the new row.
  have old {key : RowKey} (keyMem : key ∈ s.keys key.table) {number : Int}
      (numbered : key.number? = some number) : row.key.number? ≠ some number := by
    intro next
    have within := sound.within key keyMem number numbered
    have after := adds.number next
    omega
  refine ⟨adds.keyed sound.keyed, Int.le_trans sound.counted later, sound.increasing_of_adds adds,
    ?_, ?_⟩
  · intro key keyMem number numbered
    rcases adds.mem_keys_iff.mp keyMem with before | rfl
    · have within := sound.within key before number numbered
      omega
    · have next := adds.number numbered
      have counted := sound.counted
      omega
  · intro key keyMem other otherMem number numbered sameNumber
    rcases adds.mem_keys_iff.mp keyMem with before | rfl
    · rcases adds.mem_keys_iff.mp otherMem with otherBefore | rfl
      · exact sound.apart key before other otherBefore number numbered sameNumber
      · exact absurd sameNumber (old before numbered)
    · rcases adds.mem_keys_iff.mp otherMem with otherBefore | rfl
      · exact absurd numbered (old otherBefore sameNumber)
      · rfl

/-- Whatever an operation does, it keeps a store sound. -/
theorem Does.sound {now : Instant} {call : StoreCall} {result : Except StoreError call.Result}
    (sound : s.Sound) (does : Does now call s result t) : t.Sound := by
  cases does with
  | read | refuse => exact sound
  | add _ _ _ adds => exact sound.add adds
  | put _ _ puts => exact sound.of_same_keys puts.keys puts.lastId

theorem Reachable.sound (reachable : s.Reachable) : s.Sound := by
  induction reachable with
  | empty => exact sound_empty
  | answer _ now call sound => exact (sound.does now call).sound sound

/-! ## Listings -/

/-- The listings are the rows that are asked for out of those of each table, in their order. -/
structure ListsInOrder (s : Store) (rows : StoreTable → List Row) : Prop where
  flows : ∀ uid topic,
    (s.listFlows uid topic).map .flow = (rows .flows).filter (Row.isFlowOf uid topic)
  nodes : ∀ flowId, (s.listNodes flowId).map .node = (rows .nodes).filter (Row.isNodeOf flowId)
  edges : ∀ flowId, (s.listEdges flowId).map .edge = (rows .edges).filter (Row.isEdgeOf flowId)
  jobs : ∀ id, (s.listJobs id).map .job = (rows .jobs).filter (Row.isJobOf id)
  rateLimits : ∀ flowId nodeId, (s.listRateLimits flowId nodeId).map .rateLimit =
    (rows .rateLimits).filter (Row.isLimitOn flowId nodeId)

theorem listsInOrder_rows (s : Store) : s.ListsInOrder s.rows := by
  constructor <;> intros <;> rw [rows, List.filter_map] <;> rfl

/-- The nodes of a flow are listed in the order of their creation. -/
theorem keys_listNodes_sublist (s : Store) (flowId : FlowId) :
    ((s.listNodes flowId).map fun row => (Row.node row).key).Sublist (s.keys .nodes) := by
  rw [Store.keys, rows, List.map_map]
  exact List.filter_sublist.map _

/-! ## Taking notes -/

/-- What an operation writes, if it writes and is not refused. -/
def write? (s : Store) (now : Instant) (call : StoreCall) : Option Write :=
  match (s.answer now call).1 with
  | .ok _ => (call.row? (s.lastId + 1) now).map fun row => ⟨row, call.creates⟩
  | .error _ => none

end Store

/-- A store and the notes of what has been written. -/
structure Chronicle where
  store : Store
  log : List Write

namespace Chronicle

/-- An operation, and the note that is taken of it. -/
def step (c : Chronicle) (operation : Instant × StoreCall) : Chronicle where
  store := (c.store.answer operation.1 operation.2).2
  log := c.log ++ (c.store.write? operation.1 operation.2).toList

/-- The chronicle of operations, one after the other, on a store that is empty at first. -/
def of (operations : List (Instant × StoreCall)) : Chronicle :=
  operations.foldl step ⟨.empty, []⟩

/-- The notes tell the keys of the tables, the rows under them and the number that was
given last. -/
structure Faithful (c : Chronicle) : Prop where
  sound : c.store.Sound
  keys : ∀ table, c.store.keys table = Write.addedTo c.log table
  read : ∀ key, c.store.read key = Write.latest? c.log key
  lastId : c.store.lastId = c.log.countP Write.isNumbered

theorem faithful_empty : Faithful ⟨.empty, []⟩ where
  sound := Store.sound_empty
  keys := Store.keys_empty
  read := by rintro (_ | _ | _ | _ | _ | _) <;> rfl
  lastId := rfl

variable {c : Chronicle}

/-- What an operation does is what the note says of it, if there is one. -/
theorem Faithful.step (faithful : c.Faithful) (operation : Instant × StoreCall) :
    (c.step operation).Faithful := by
  rcases operation with ⟨now, call⟩
  have does := faithful.sound.does now call
  have after := does.sound faithful.sound
  simp only [Chronicle.step, Store.write?]
  generalize (c.store.answer now call).1 = result at does ⊢
  generalize (c.store.answer now call).2 = t at does after ⊢
  cases does with
  | read nothing => simpa [nothing] using faithful
  | refuse => simpa using faithful
  | @add _ _ row creates written _ adds =>
      simp only [written, creates, Option.map_some, Option.toList_some]
      refine ⟨after, ?_, ?_, ?_⟩
      · intro table
        simp [adds.keys, faithful.keys, Write.addedTo_append_singleton]
      · intro key
        simp [adds.read faithful.sound.keyed after.keyed, faithful.read,
          Write.latest?_append_singleton]
      · simp only [adds.lastId, faithful.lastId, List.countP_append, List.countP_singleton,
          Write.isNumbered]
        by_cases executions : row.key.table = .executions <;> simp [executions]
  | @put _ _ row creates written puts =>
      simp only [written, creates, Option.map_some, Option.toList_some]
      refine ⟨after, ?_, ?_, ?_⟩
      · intro table
        simp [puts.keys, faithful.keys, Write.addedTo_append_singleton]
      · intro key
        simp [puts.read faithful.sound.keyed after.keyed, faithful.read,
          Write.latest?_append_singleton]
      · simp [puts.lastId, faithful.lastId, List.countP_append, Write.isNumbered]

theorem Faithful.foldl (faithful : c.Faithful) (operations : List (Instant × StoreCall)) :
    (operations.foldl Chronicle.step c).Faithful := by
  induction operations generalizing c with
  | nil => exact faithful
  | cons operation rest ih => exact ih (faithful.step operation)

theorem faithful_of (operations : List (Instant × StoreCall)) : (of operations).Faithful :=
  faithful_empty.foldl operations

/-- What operations have led to can be reached. -/
theorem reachable_of (operations : List (Instant × StoreCall)) :
    (of operations).store.Reachable := by
  have leads (c : Chronicle) (reachable : c.store.Reachable) :
      (operations.foldl Chronicle.step c).store.Reachable := by
    induction operations generalizing c with
    | nil => exact reachable
    | cons operation rest ih => exact ih _ (reachable.answer operation.1 operation.2)
  exact leads ⟨.empty, []⟩ .empty

/-- The keys of a table only become more. -/
theorem Faithful.keys_isPrefix (faithful : c.Faithful) (more : List (Instant × StoreCall))
    (table : StoreTable) :
    c.store.keys table <+: (more.foldl Chronicle.step c).store.keys table := by
  induction more generalizing c with
  | nil => exact List.prefix_refl _
  | cons operation rest ih =>
      refine List.IsPrefix.trans ?_ (ih (faithful.step operation))
      rw [faithful.keys, (faithful.step operation).keys]
      simp only [Chronicle.step]
      rcases c.store.write? operation.1 operation.2 with _ | write
      · simp
      · rw [Option.toList_some, Write.addedTo_append_singleton]
        exact List.prefix_append _ _

/-- The rows of a table are those that have been added, as they were written last. -/
theorem Faithful.rows_eq (faithful : c.Faithful) (table : StoreTable) :
    c.store.rows table = Write.written c.log table := by
  rw [faithful.sound.keyed.rows_eq, faithful.keys, funext faithful.read, Write.written]

/-- After any operations the tables are sound; every further operation only reads, adds the row
that it returns at the end of its table, puts one row in the place of the one with its key, or
is refused and changes nothing; and none ever removes or moves a row.  The keys of a table are
those that have been added, in order; what is read under a key is the row that was written last
under it, and the operations show these rows and no others.  So the listings are the rows that are
asked for as they were written last, in the order of their creation.  And as many numbers have been
given as rows were added that are known by a number, or are nodes. -/
theorem operations_kept (operations : List (Instant × StoreCall)) :
    (of operations).store.Sound ∧
    (∀ now call, Store.Does now call (of operations).store ((of operations).store.answer now call).1
      ((of operations).store.answer now call).2) ∧
    (∀ more table,
      (of operations).store.keys table <+: (of (operations ++ more)).store.keys table) ∧
    (∀ table, (of operations).store.keys table = Write.addedTo (of operations).log table) ∧
    (of operations).store.ListsInOrder (Write.written (of operations).log) ∧
    (∀ key, (of operations).store.read key = Write.latest? (of operations).log key) ∧
    (∀ key row, (of operations).store.read key = some row → row.key = key) ∧
    (∀ row, (of operations).store.Shows row ↔
      Write.latest? (of operations).log row.key = some row) ∧
    (of operations).store.lastId = (of operations).log.countP Write.isNumbered := by
  have faithful := faithful_of operations
  refine ⟨faithful.sound, faithful.sound.does, ?_, faithful.keys, ?_, faithful.read, ?_, ?_,
    faithful.lastId⟩
  · intro more table
    rw [of, of, List.foldl_append]
    exact faithful.keys_isPrefix more table
  · rw [← funext faithful.rows_eq]
    exact Store.listsInOrder_rows _
  · intro key row found
    rw [faithful.sound.keyed.read_eq] at found
    exact ((Store.find?_key_eq_some_iff (faithful.sound.keyed _)).mp found).2
  · intro row
    rw [← faithful.read]
    exact faithful.sound.keyed.shows_iff

end Chronicle

end EventFlow
