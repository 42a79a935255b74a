import EventFlow.Proofs.Record.Fields
import EventFlow.Record.Queue
import EventFlow.Record.RateLimit
import EventFlow.Record.Rule

/-!
# Spellings of records

A record may be written in more than one way.  What is false, empty or missing is left out by
the library, and others may add members of their own, or call a type or a unit by a name that
the library does not know and takes for the type or the unit of all others.  All of these
spellings are read as the record that was written.
-/

namespace EventFlow

/-! ## Members -/

namespace Json

/-- An object with a member put in, in place of the one of the same name. -/
def put (value : Json) (name : String) (member : Json) : Json :=
  match value with
  | .object members => .object (Bag.insert name member members)
  | other => other

/-- The spellings of an object with known names: the object as it is written, and what comes of
it when members are put in under unknown names, or members that stand for what is written. -/
inductive Spelling (known : List String) (StandsFor : String → Json → Prop) (written : Json) :
    Json → Prop
  | written : Spelling known StandsFor written written
  | unknown {value : Json} (name : String) (member : Json) (unknown : name ∉ known)
      (spelling : Spelling known StandsFor written value) :
      Spelling known StandsFor written (value.put name member)
  | synonym {value : Json} (name : String) (member : Json) (standsFor : StandsFor name member)
      (spelling : Spelling known StandsFor written value) :
      Spelling known StandsFor written (value.put name member)

variable {known : List String} {StandsFor : String → Json → Prop} {value : Json}
  {members : List (String × Json)} {worth : Bool} {name other : String}

@[simp]
theorem lookup_memberIf_self :
    (memberIf worth name value).lookup name = if worth then some value else none := by
  cases worth with
  | false => rfl
  | true => exact List.lookup_cons_self

@[simp]
theorem lookup_memberIf_of_ne (different : other ≠ name) :
    (memberIf worth name value).lookup other = none := by
  cases worth with
  | false => rfl
  | true => rw [memberIf, if_pos rfl, List.lookup_cons, beq_eq_false_iff_ne.mpr different,
      List.lookup_nil]

/-- The names of members stay among those that are listed when one more is listed, whether its
member is written or not. -/
theorem sublist_append_memberIf {names : List String} (below : (members.map (·.1)).Sublist names) :
    ((members ++ memberIf worth name value).map (·.1)).Sublist (names ++ [name]) := by
  rw [List.map_append]
  apply below.append
  cases worth with
  | false => exact List.nil_sublist _
  | true => exact List.Sublist.refl _

/-- A spelling of a record is an object that has under each known name what is written there,
or what stands for it. -/
theorem Spelling.exists_object {spelled : Json} (distinct : (members.map (·.1)).Nodup)
    (spelling : Spelling known StandsFor (record members) spelled) :
    ∃ bag : Bag, spelled = .object bag ∧ bag.Sorted ∧ ∀ name ∈ known,
      bag.get? name = members.lookup name ∨
        ∃ member, bag.get? name = some member ∧ StandsFor name member := by
  induction spelling with
  | written =>
      refine ⟨_, rfl, Bag.sorted_ofList members, fun name _ => ?_⟩
      exact .inl (Bag.get?_ofList distinct name)
  | unknown key member unknown _ ih =>
      obtain ⟨bag, rfl, sorted, here⟩ := ih
      refine ⟨_, rfl, sorted.insert key member, fun name nameMem => ?_⟩
      have different : name ≠ key := by
        rintro rfl
        exact unknown nameMem
      rw [Bag.get?_insert_of_ne different]
      exact here name nameMem
  | synonym key member standsFor _ ih =>
      obtain ⟨bag, rfl, sorted, here⟩ := ih
      refine ⟨_, rfl, sorted.insert key member, fun name nameMem => ?_⟩
      by_cases same : name = key
      · subst same
        exact .inr ⟨member, Bag.get?_insert bag name member, standsFor⟩
      · rw [Bag.get?_insert_of_ne same]
        exact here name nameMem

end Json

open Json (Spelling)

/-- A record is read off all its spellings if its fields are read off whatever may stand there
under their names. -/
theorem Fields.reads_of_spelling {α : Type} {fields : Fields α} {a : α}
    {StandsFor : String → Json → Prop} {members : List (String × Json)} {spelled : Json}
    (spelling : Spelling fields.names StandsFor (.record members) spelled)
    (distinct : (members.map (·.1)).Nodup)
    (reads : ∀ found : String → Option Json,
      (∀ name ∈ fields.names, found name = members.lookup name ∨
        ∃ member, found name = some member ∧ StandsFor name member) →
      fields.Reads found a) :
    Decoder.Reads fields.decoder spelled a := by
  obtain ⟨bag, rfl, sorted, here⟩ := spelling.exists_object distinct
  exact (reads bag.get? here).decoder sorted.distinct

/-- Nothing else stands for what is written. -/
def NoSynonym (_ : String) (_ : Json) : Prop := False

/-- A value that may be missing is read off null, or off the value when it is there. -/
theorem Decoder.reads_orNull {α : Type} {decoder : Decoder α} {write : α → Json} {a? : Option α}
    (reads : ∀ a ∈ a?, decoder.Reads (write a) a) (present : ∀ a ∈ a?, write a ≠ .null) :
    (nullable decoder).Reads (.orNull write a?) a? := by
  cases a? with
  | none => exact reads_null
  | some a => exact reads_some (reads a rfl) (present a rfl)

/-- A list is read off the list as it is written, which may be missing when there is nothing in
it, and off any list of spellings. -/
theorem Fields.reads_list {α : Type} {decoder : Decoder α} {write : α → Json}
    {Spelled : α → Json → Prop} {values : List α} {name : String} {found : String → Option Json}
    (reads : ∀ {a spelled}, Spelled a spelled → decoder.Reads spelled a)
    (written : ∀ a, Spelled a (write a))
    (here : found name = (if ! values.isEmpty then some (.array (values.map write)) else .none) ∨
      ∃ items, List.Forall₂ Spelled values items ∧ found name = some (.array items)) :
    (optional name (Decoder.list decoder) []).Reads found values := by
  rcases here with here | ⟨items, spelled, here⟩
  · refine reads_field_of_if here (Decoder.reads_list ?_) (by simp)
    rw [List.forall₂_map_right_iff]
    exact List.forall₂_same.mpr fun a _ => reads (written a)
  · exact reads_optional here (Decoder.reads_list (spelled.imp fun _ _ => reads)) []

/-! ## Catalogues -/

namespace Ingredient

/-- The spellings of an ingredient. -/
def Spelled (i : Ingredient) : Json → Prop :=
  Spelling fields.names NoSynonym i.toJson

theorem reads_spelled {i : Ingredient} {spelled : Json} (spelling : i.Spelled spelled) :
    decoder.Reads spelled i := by
  refine Fields.reads_of_spelling spelling ?_ fun found here => ?_
  · exact (Json.sublist_append_memberIf (Json.sublist_append_memberIf (.refl _))).nodup
      (by simp)
  simp only [NoSynonym, and_false, exists_false, or_false] at here
  have name : found "name" = some (.string i.name) := here "name" (by simp [fields])
  have path : found "path" = some (.string i.path) := here "path" (by simp [fields])
  have required : found "required" = if i.required then some (.bool i.required) else none :=
    (here "required" (by simp [fields])).trans (by simp [List.lookup_append, List.lookup_cons])
  have description : found "description" =
      if i.description != "" then some (.string i.description) else none :=
    (here "description" (by simp [fields])).trans (by simp [List.lookup_append, List.lookup_cons])
  exact ((((Fields.reads_required name (Decoder.reads_string _)).map Ingredient.mk).seq
    (Fields.reads_required path (Decoder.reads_string _))).seq
    (Fields.reads_field_of_if required (Decoder.reads_bool _) fun unworthy => unworthy)).seq
    (Fields.reads_field_of_if description (Decoder.reads_string _) (by simp))

end Ingredient

namespace ParamSpec

/-- A type that is not known stands for any type. -/
def Synonym (p : ParamSpec) (name : String) (member : Json) : Prop :=
  name = "type" ∧ p.paramType = .any ∧
    ∃ typeName, ParamType.names.lookup typeName = none ∧ member = .string typeName

/-- The spellings of a declared parameter. -/
def Spelled (p : ParamSpec) : Json → Prop :=
  Spelling fields.names p.Synonym p.toJson

theorem byName_name (paramType : ParamType) :
    Decoder.byName ParamType.names (some .any) paramType.name = .ok paramType := by
  cases paramType <;> rfl

theorem reads_spelled {p : ParamSpec} {spelled : Json} (spelling : p.Spelled spelled) :
    decoder.Reads spelled p := by
  refine Fields.reads_of_spelling spelling ?_ fun found here => ?_
  · exact (Json.sublist_append_memberIf (Json.sublist_append_memberIf
      (Json.sublist_append_memberIf (Json.sublist_append_memberIf (.refl _))))).nodup (by simp)
  have plain (name : String) (nameMem : name ∈ fields.names) (other : name ≠ "type") := by
    refine (here name nameMem).resolve_right ?_
    rintro ⟨member, _, same, _⟩
    exact other same
  have name : found "name" = some (.string p.name) := plain "name" (by simp [fields]) (by simp)
  have typed : ∃ typeName, found "type" = some (.string typeName) ∧
      Decoder.byName ParamType.names (some .any) typeName = .ok p.paramType := by
    rcases here "type" (by simp [fields]) with
      written | ⟨_, written, _, any, typeName, unknown, rfl⟩
    · exact ⟨p.paramType.name, written, byName_name p.paramType⟩
    · refine ⟨typeName, written, ?_⟩
      rw [Decoder.byName, unknown, any]
      rfl
  obtain ⟨typeName, typeWritten, typeFound⟩ := typed
  have required : found "required" = if p.required then some (.bool p.required) else none :=
    (plain "required" (by simp [fields]) (by simp)).trans
      (by simp [List.lookup_append, List.lookup_cons])
  have description : found "description" =
      if p.description != "" then some (.string p.description) else none :=
    (plain "description" (by simp [fields]) (by simp)).trans
      (by simp [List.lookup_append, List.lookup_cons])
  have choices : found "enum" =
      if p.choices != [] then some (.array (p.choices.map .string)) else none :=
    (plain "enum" (by simp [fields]) (by simp)).trans
      (by simp [List.lookup_append, List.lookup_cons])
  have pattern : found "pattern" =
      if p.pattern != "" then some (.string p.pattern) else none :=
    (plain "pattern" (by simp [fields]) (by simp)).trans
      (by simp [List.lookup_append, List.lookup_cons])
  have readChoices : (Decoder.list Decoder.string).Reads (.array (p.choices.map .string))
      p.choices := by
    apply Decoder.reads_list
    rw [List.forall₂_map_right_iff]
    exact List.forall₂_same.mpr fun choice _ => Decoder.reads_string choice
  exact ((((((Fields.reads_required name (Decoder.reads_string _)).map ParamSpec.mk).seq
    (Fields.reads_optional typeWritten (Decoder.reads_oneOf typeFound) _)).seq
    (Fields.reads_field_of_if required (Decoder.reads_bool _) fun unworthy => unworthy)).seq
    (Fields.reads_field_of_if description (Decoder.reads_string _) (by simp))).seq
    (Fields.reads_field_of_if choices readChoices (by simp))).seq
    (Fields.reads_field_of_if pattern (Decoder.reads_string _) (by simp))

end ParamSpec

namespace RuleInfo

/-- The lists of a description may hold any spellings of what they hold. -/
def Synonym (r : RuleInfo) (name : String) (member : Json) : Prop :=
  (name = "ingredients" ∧ ∃ items, List.Forall₂ Ingredient.Spelled r.ingredients items ∧
      member = .array items) ∨
    (name = "inputs" ∧ ∃ items, List.Forall₂ ParamSpec.Spelled r.inputs items ∧
      member = .array items)

/-- The spellings of the description of a rule. -/
def Spelled (r : RuleInfo) : Json → Prop :=
  Spelling fields.names r.Synonym r.toJson

theorem reads_spelled {r : RuleInfo} {spelled : Json} (spelling : r.Spelled spelled) :
    decoder.Reads spelled r := by
  refine Fields.reads_of_spelling spelling ?_ fun found here => ?_
  · exact (Json.sublist_append_memberIf (Json.sublist_append_memberIf
      (Json.sublist_append_memberIf (.refl _)))).nodup (by simp)
  have plain (name : String) (nameMem : name ∈ fields.names) (noIngredients : name ≠ "ingredients")
      (noInputs : name ≠ "inputs") := by
    refine (here name nameMem).resolve_right ?_
    rintro ⟨member, _, ⟨same, _⟩ | ⟨same, _⟩⟩
    · exact noIngredients same
    · exact noInputs same
  have id : found "id" = some (.string r.id) :=
    plain "id" (by simp [fields]) (by simp) (by simp)
  have kind : found "kind" = some (.string r.kind.name) :=
    plain "kind" (by simp [fields]) (by simp) (by simp)
  have title : found "title" = some (.string r.title) :=
    plain "title" (by simp [fields]) (by simp) (by simp)
  have description : found "description" = some (.string r.description) :=
    plain "description" (by simp [fields]) (by simp) (by simp)
  have mode : found "mode" =
      if r.mode.isSome then some (.orNull (fun m => .string m.name) r.mode) else none :=
    (plain "mode" (by simp [fields]) (by simp) (by simp)).trans
      (by simp [List.lookup_append, List.lookup_cons])
  have ingredients : (Fields.optional "ingredients" (Decoder.list Ingredient.decoder) []).Reads
      found r.ingredients := by
    refine Fields.reads_list Ingredient.reads_spelled (fun _ => .written) ?_
    refine (here "ingredients" (by simp [fields])).imp (fun written => ?_) ?_
    · exact written.trans (by simp [List.lookup_append, List.lookup_cons])
    · rintro ⟨_, written, ⟨_, items, spelled, rfl⟩ | ⟨same, _⟩⟩
      · exact ⟨items, spelled, written⟩
      · exact absurd same (by simp)
  have inputs : (Fields.optional "inputs" (Decoder.list ParamSpec.decoder) []).Reads
      found r.inputs := by
    refine Fields.reads_list ParamSpec.reads_spelled (fun _ => .written) ?_
    refine (here "inputs" (by simp [fields])).imp (fun written => ?_) ?_
    · exact written.trans (by simp [List.lookup_append, List.lookup_cons])
    · rintro ⟨_, written, ⟨same, _⟩ | ⟨_, items, spelled, rfl⟩⟩
      · exact absurd same (by simp)
      · exact ⟨items, spelled, written⟩
  have readKind : RuleKind.decoder.Reads (.string r.kind.name) r.kind :=
    Decoder.reads_oneOf (by cases r.kind <;> rfl)
  have readMode : (Decoder.nullable TriggerMode.decoder).Reads
      (.orNull (fun m => .string m.name) r.mode) r.mode :=
    Decoder.reads_orNull (fun m _ => Decoder.reads_oneOf (by cases m <;> rfl)) (by simp)
  exact (((((((Fields.reads_required id (Decoder.reads_string _)).map RuleInfo.mk).seq
    (Fields.reads_required kind readKind)).seq
    (Fields.reads_required title (Decoder.reads_string _))).seq
    (Fields.reads_required description (Decoder.reads_string _))).seq
    (Fields.reads_field_of_if mode readMode (by simp))).seq ingredients).seq inputs

end RuleInfo

/-! ## Polls, limits, conditions and requests -/

namespace PollResult

/-- What a poll brings holds ordered objects only. -/
structure Proper (r : PollResult) : Prop where
  events : ∀ event ∈ r.events, (Json.object event).Ordered
  state : ∀ state ∈ r.state, (Json.object state).Ordered

/-- The spellings of what a poll brings. -/
def Spelled (r : PollResult) : Json → Prop :=
  Spelling fields.names NoSynonym r.toJson

theorem reads_spelled {r : PollResult} (proper : r.Proper) {spelled : Json}
    (spelling : r.Spelled spelled) : decoder.Reads spelled r := by
  refine Fields.reads_of_spelling spelling (by simp) fun found here => ?_
  simp only [NoSynonym, and_false, exists_false, or_false] at here
  have events : found "events" = some (.array (r.events.map .object)) :=
    here "events" (by simp [fields])
  have state : found "state" = some (.orNull .object r.state) := here "state" (by simp [fields])
  have readEvents : (Decoder.list Decoder.bag).Reads (.array (r.events.map .object)) r.events := by
    apply Decoder.reads_list
    rw [List.forall₂_map_right_iff]
    exact List.forall₂_same.mpr fun event eventMem =>
      Decoder.reads_bag (proper.events event eventMem)
  have readState : (Decoder.nullable Decoder.bag).Reads (.orNull .object r.state) r.state :=
    Decoder.reads_orNull (fun state stateMem => Decoder.reads_bag (proper.state state stateMem))
      (by simp)
  exact ((Fields.reads_optional events readEvents _).map PollResult.mk).seq
    (Fields.reads_optional state readState _)

end PollResult

/-- The number of a row is in the range of row numbers. -/
def RowId.InRange {entity : Entity} (id : RowId entity) : Prop :=
  Text.Range.signed64.contains id.value = true

namespace RateLimit

/-- The numbers of a rate limit are in their ranges. -/
structure Proper (r : RateLimit) : Prop where
  id : r.id.InRange
  flowId : ∀ id ∈ r.flowId, id.InRange
  windowSize : Text.Range.unsigned32.contains r.windowSize = true
  limitValue : Text.Range.unsigned32.contains r.limitValue = true

/-- A unit that is not known stands for seconds. -/
def Synonym (r : RateLimit) (name : String) (member : Json) : Prop :=
  name = "window_unit" ∧ r.windowUnit = .second ∧
    ∃ unitName, WindowUnit.names.lookup unitName = none ∧ member = .string unitName

/-- The spellings of a rate limit. -/
def Spelled (r : RateLimit) : Json → Prop :=
  Spelling fields.names r.Synonym r.toJson

theorem byName_name (unit : WindowUnit) :
    Decoder.byName WindowUnit.names (some .second) unit.name = .ok unit := by
  cases unit <;> rfl

theorem reads_spelled {r : RateLimit} (proper : r.Proper) {spelled : Json}
    (spelling : r.Spelled spelled) : decoder.Reads spelled r := by
  refine Fields.reads_of_spelling spelling (by simp) fun found here => ?_
  have plain (name : String) (nameMem : name ∈ fields.names) (other : name ≠ "window_unit") := by
    refine (here name nameMem).resolve_right ?_
    rintro ⟨member, _, same, _⟩
    exact other same
  have id : found "id" = some r.id.toJson := plain "id" (by simp [fields]) (by simp)
  have flowId : found "flow_id" = some (.orNull RowId.toJson r.flowId) :=
    plain "flow_id" (by simp [fields]) (by simp)
  have nodeId : found "node_id" = some (.orNull .string r.nodeId) :=
    plain "node_id" (by simp [fields]) (by simp)
  have windowSize : found "window_size" = some (.ofInt r.windowSize) :=
    plain "window_size" (by simp [fields]) (by simp)
  have unit : ∃ unitName, found "window_unit" = some (.string unitName) ∧
      Decoder.byName WindowUnit.names (some .second) unitName = .ok r.windowUnit := by
    rcases here "window_unit" (by simp [fields]) with
      written | ⟨_, written, _, second, unitName, unknown, rfl⟩
    · exact ⟨r.windowUnit.name, written, byName_name r.windowUnit⟩
    · refine ⟨unitName, written, ?_⟩
      rw [Decoder.byName, unknown, second]
      rfl
  obtain ⟨unitName, unitWritten, unitFound⟩ := unit
  have limitValue : found "limit_value" = some (.ofInt r.limitValue) :=
    plain "limit_value" (by simp [fields]) (by simp)
  have readFlowId : (Decoder.nullable (Decoder.rowId .flow)).Reads
      (.orNull RowId.toJson r.flowId) r.flowId :=
    Decoder.reads_orNull (fun id idMem => Decoder.reads_rowId (proper.flowId id idMem))
      (by simp [RowId.toJson, Json.ofInt])
  have readNodeId : (Decoder.nullable Decoder.string).Reads (.orNull .string r.nodeId) r.nodeId :=
    Decoder.reads_orNull (fun text _ => Decoder.reads_string text) (by simp)
  exact ((((((Fields.reads_optional id (Decoder.reads_rowId proper.id) _).map RateLimit.mk).seq
    (Fields.reads_optional flowId readFlowId _)).seq
    (Fields.reads_optional nodeId readNodeId _)).seq
    (Fields.reads_required windowSize (Decoder.reads_natural proper.windowSize))).seq
    (Fields.reads_optional unitWritten (Decoder.reads_oneOf unitFound) _)).seq
    (Fields.reads_required limitValue (Decoder.reads_natural proper.limitValue))

end RateLimit

namespace Condition

/-- The spellings of a condition. -/
def Spelled (c : Condition) : Json → Prop :=
  Spelling fields.names NoSynonym c.toJson

theorem reads_spelled {c : Condition} (ordered : c.value.Ordered) {spelled : Json}
    (spelling : c.Spelled spelled) : decoder.Reads spelled c := by
  refine Fields.reads_of_spelling spelling (by simp) fun found here => ?_
  simp only [NoSynonym, and_false, exists_false, or_false] at here
  have subject : found "variable" = some (.string c.subject) :=
    here "variable" (by simp [fields])
  have operator : found "operator" = some (.string c.operator) :=
    here "operator" (by simp [fields])
  have value : found "value" = some c.value := here "value" (by simp [fields])
  exact (((Fields.reads_required subject (Decoder.reads_string _)).map Condition.mk).seq
    (Fields.reads_required operator (Decoder.reads_string _))).seq
    (Fields.reads_optional value (Decoder.reads_json ordered) _)

end Condition

namespace FlowRequest

/-- The number of the flow is in its range, and the payload holds ordered objects only. -/
structure Proper (r : FlowRequest) : Prop where
  flowId : r.flowId.InRange
  payload : (Json.object r.payload).Ordered

/-- The spellings of a request. -/
def Spelled (r : FlowRequest) : Json → Prop :=
  Spelling fields.names NoSynonym r.toJson

theorem reads_spelled {r : FlowRequest} (proper : r.Proper) {spelled : Json}
    (spelling : r.Spelled spelled) : decoder.Reads spelled r := by
  refine Fields.reads_of_spelling spelling (by simp) fun found here => ?_
  simp only [NoSynonym, and_false, exists_false, or_false] at here
  have flowId : found "flow_id" = some r.flowId.toJson := here "flow_id" (by simp [fields])
  have triggerType : found "trigger_type" = some (.string r.triggerType) :=
    here "trigger_type" (by simp [fields])
  have triggerId : found "trigger_id" = some (.string r.triggerId) :=
    here "trigger_id" (by simp [fields])
  have payload : found "payload" = some (.object r.payload) := here "payload" (by simp [fields])
  exact ((((Fields.reads_required flowId (Decoder.reads_rowId proper.flowId)).map
    FlowRequest.mk).seq
    (Fields.reads_required triggerType (Decoder.reads_string _))).seq
    (Fields.reads_required triggerId (Decoder.reads_string _))).seq
    (Fields.reads_optional payload (Decoder.reads_bag proper.payload) _)

end FlowRequest

/-! ## Reading all spellings -/

/-- What is written is read as the value, and so is every other spelling of it. -/
def RoundTrips {α : Type} (decoder : Decoder α) (written : Json) (Spelled : Json → Prop)
    (a : α) : Prop :=
  ∀ now : Instant, decoder.ofJson now written = .ok a ∧
    ∀ spelled, Spelled spelled → decoder.ofJson now spelled = .ok a

theorem roundTrips {α : Type} {decoder : Decoder α} {written : Json} {Spelled : Json → Prop}
    {a : α} (reads : ∀ {spelled}, Spelled spelled → decoder.Reads spelled a)
    (spelling : Spelled written) : RoundTrips decoder written Spelled a :=
  fun now => ⟨(reads spelling).ofJson now, fun _ spelled => (reads spelled).ofJson now⟩

/-- All records of catalogues, polls, limits, conditions and requests are read off what is
written of them, and off every other spelling. -/
theorem records_round_trip :
    (∀ i : Ingredient, RoundTrips Ingredient.decoder i.toJson i.Spelled i) ∧
      (∀ p : ParamSpec, RoundTrips ParamSpec.decoder p.toJson p.Spelled p) ∧
      (∀ r : RuleInfo, RoundTrips RuleInfo.decoder r.toJson r.Spelled r) ∧
      (∀ r : PollResult, r.Proper → RoundTrips PollResult.decoder r.toJson r.Spelled r) ∧
      (∀ r : RateLimit, r.Proper → RoundTrips RateLimit.decoder r.toJson r.Spelled r) ∧
      (∀ c : Condition, c.value.Ordered → RoundTrips Condition.decoder c.toJson c.Spelled c) ∧
      ∀ r : FlowRequest, r.Proper → RoundTrips FlowRequest.decoder r.toJson r.Spelled r := by
  refine ⟨?_, ?_, ?_, ?_, ?_, ?_, ?_⟩
  · exact fun i => roundTrips Ingredient.reads_spelled .written
  · exact fun p => roundTrips ParamSpec.reads_spelled .written
  · exact fun r => roundTrips RuleInfo.reads_spelled .written
  · exact fun r proper => roundTrips (PollResult.reads_spelled proper) .written
  · exact fun r proper => roundTrips (RateLimit.reads_spelled proper) .written
  · exact fun c ordered => roundTrips (Condition.reads_spelled ordered) .written
  · exact fun r proper => roundTrips (FlowRequest.reads_spelled proper) .written

/-- An action that takes anything for a body. -/
def sender : RuleInfo :=
  ⟨"send", .action, "Send", "", none, [], [ParamSpec.create "body" .any]⟩

/-- What others may write of the action: the body is of a type of their own, and there is a
picture. -/
def senderSpelled : Json :=
  .object [("description", .string ""), ("icon", .string "letter"), ("id", .string "send"),
    ("inputs", .array [.object [("name", .string "body"), ("type", .string "blob")]]),
    ("kind", .string "action"), ("title", .string "Send")]

/-- An event and where to go on from. -/
def delivery : PollResult :=
  ⟨[[("id", .ofInt 7)]], some [("cursor", .string "b")]⟩

/-- Two executions within five seconds. -/
def pace : RateLimit :=
  .forFlow ⟨1⟩ 5 .second 2

/-- What others may write of the limit, with a unit of their own. -/
def paceSpelled : Json :=
  .object [("flow_id", .ofInt 1), ("id", .ofInt 0), ("limit_value", .ofInt 2),
    ("node_id", .null), ("window_size", .ofInt 5), ("window_unit", .string "beat")]

/-- A gate for small numbers. -/
def small : Condition :=
  ⟨"n", "lt", .ofInt 3⟩

/-- A request with a payload. -/
def letterCame : FlowRequest :=
  ⟨⟨1⟩, "post|letter", "e-1", [("from", .string "Ann")]⟩

theorem sender_spelled : sender.Spelled senderSpelled := by
  have body : (ParamSpec.create "body" .any).Spelled
      (.object [("name", .string "body"), ("type", .string "blob")]) :=
    .synonym "type" (.string "blob") ⟨rfl, rfl, "blob", rfl, rfl⟩ .written
  exact .unknown "icon" (.string "letter") (by decide)
    (.synonym "inputs" _ (.inr ⟨rfl, _, .cons body .nil, rfl⟩) .written)

/-- Unknown types, units and members do no harm. -/
theorem records_round_trip_of_samples :
    (sender.Spelled senderSpelled ∧ RuleInfo.decoder.ofJson ⟨0, false⟩ senderSpelled = .ok sender) ∧
      (delivery.Proper ∧ PollResult.decoder.ofJson ⟨0, false⟩ delivery.toJson = .ok delivery) ∧
      (pace.Proper ∧ pace.Spelled paceSpelled ∧
        RateLimit.decoder.ofJson ⟨0, false⟩ paceSpelled = .ok pace) ∧
      (small.value.Ordered ∧ Condition.decoder.ofJson ⟨0, false⟩ small.toJson = .ok small) ∧
      (letterCame.Proper ∧
        FlowRequest.decoder.ofJson ⟨0, false⟩ letterCame.toJson = .ok letterCame) := by
  have delivered : delivery.Proper := by
    constructor
    · intro event eventMem
      obtain rfl := List.mem_singleton.mp eventMem
      exact Json.ordered_singleton (.number _)
    · rintro state ⟨⟩
      exact Json.ordered_singleton (.string _)
  have paced : pace.Proper := by
    refine ⟨rfl, ?_, rfl, rfl⟩
    rintro id ⟨⟩
    rfl
  have paceSpelling : pace.Spelled paceSpelled :=
    .synonym "window_unit" (.string "beat") ⟨rfl, rfl, "beat", rfl, rfl⟩ .written
  have came : letterCame.Proper := ⟨rfl, Json.ordered_singleton (.string _)⟩
  obtain ⟨_, _, rules, polls, limits, conditions, requests⟩ := records_round_trip
  exact ⟨⟨sender_spelled, (rules sender ⟨0, false⟩).2 _ sender_spelled⟩,
    ⟨delivered, (polls delivery delivered ⟨0, false⟩).1⟩,
    ⟨paced, paceSpelling, (limits pace paced ⟨0, false⟩).2 _ paceSpelling⟩,
    ⟨.number _, (conditions small (.number _) ⟨0, false⟩).1⟩,
    ⟨came, (requests letterCame came ⟨0, false⟩).1⟩⟩

end EventFlow
