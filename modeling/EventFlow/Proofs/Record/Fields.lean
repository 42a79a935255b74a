import EventFlow.Proofs.Json.Ordered
import EventFlow.Record.Decoder

/-!
# Reading values field by field

What a decoder reads off a value does not depend on the surroundings, as long as the value does
not stand in a text.  A record is read off an object when each of its fields is read off what
stands under its name, whatever else stands in the object.
-/

namespace EventFlow

open EventFlow.Json (Document Ending Literal)

namespace Decoder

variable {α : Type} {decoder : Decoder α} {value : Json} {a : α}

/-- A decoder reads something off a value that does not stand in a text. -/
def Reads (decoder : Decoder α) (value : Json) (a : α) : Prop :=
  ∀ s : Surroundings, s.fromText = false → decoder s (.ofJson value) = .ok a

theorem Reads.ofJson (reads : decoder.Reads value a) (now : Instant) :
    decoder.ofJson now value = .ok a :=
  reads _ rfl

/-! ## Plain values -/

theorem enter_of_not_fromText {s : Surroundings} (plain : s.fromText = false) :
    enter s = .ok s := by
  rw [enter, plain]
  rfl

theorem reads_string (text : String) : string.Reads (.string text) text := fun _ _ => by
  rw [Document.ofJson]
  rfl

theorem reads_bool (b : Bool) : bool.Reads (.bool b) b := fun _ _ => by
  rw [Document.ofJson]
  rfl

theorem reads_integer {range : Text.Range} {n : Int} (within : range.contains n = true) :
    (integer range).Reads (.ofInt n) n := fun s _ => by
  have read : integer range s (Document.ofJson (.ofInt n)) =
      if range.contains n then .ok n else .error .mismatch := by
    rw [Json.ofInt, Document.ofJson]
    rfl
  rw [read, if_pos within]

theorem reads_natural {range : Text.Range} {n : Nat} (within : range.contains n = true) :
    (natural range).Reads (.ofInt n) n := fun s plain => by
  rw [natural, reads_integer within s plain]
  rfl

theorem reads_rowId {entity : Entity} {id : RowId entity}
    (within : Text.Range.signed64.contains id.value = true) :
    (rowId entity).Reads (.ofInt id.value) id := fun s plain => by
  rw [rowId, reads_integer within s plain]
  rfl

theorem reads_json (ordered : value.Ordered) : json.Reads value value := fun s plain => by
  have read := Document.toJson_ofJson ordered (Nat.le_refl _)
  rw [json, plain, if_neg Bool.false_ne_true, read]
  rfl

theorem reads_bag {members : Bag} (ordered : (Json.object members).Ordered) :
    bag.Reads (.object members) members := fun s plain => by
  have read := reads_json ordered s plain
  rw [Document.ofJson] at read ⊢
  rw [bag, read]
  rfl

/-- The items of an array are read one by one. -/
theorem reads_list {items : List Json} {values : List α}
    (reads : List.Forall₂ (fun a item => decoder.Reads item a) values items) :
    (list decoder).Reads (.array items) values := fun s plain => by
  have read : (Document.ofItems items).mapM (decoder s) = .ok values := by
    induction reads with
    | nil => rfl
    | cons first _ ih =>
        rw [Document.ofItems, List.mapM_cons, first s plain, ih]
        rfl
  rw [Document.ofJson, list, enter_of_not_fromText plain]
  exact (congrArg (fun read => read >>= fun values => Except.ok values) read)

/-- A value by its name, or the value of all other names. -/
theorem reads_oneOf {names : List (String × α)} {other : Option α} {name : String}
    (found : byName names other name = .ok a) : (oneOf names other).Reads (.string name) a :=
  fun s _ => by
    rw [Document.ofJson]
    exact found

theorem reads_null : (nullable decoder).Reads .null none := fun s _ => by
  rw [Document.ofJson]
  rfl

theorem reads_some (reads : decoder.Reads value a) (present : value ≠ .null) :
    (nullable decoder).Reads value (some a) := fun s plain => by
  have read : nullable decoder s (Document.ofJson value) =
      (decoder s (Document.ofJson value)).map some := by
    cases value with
    | null => contradiction
    | bool b | number n | string t | array items | object members =>
        rw [Document.ofJson]
        rfl
  rw [read, reads s plain]
  rfl

end Decoder

/-! ## Fields -/

namespace Fields

variable {α β : Type}

/-- The names of some fields. -/
def names (fields : Fields α) : List String :=
  fields.checks.map (·.1)

/-- Some fields are read off what is found under their names: what is there is accepted, and
the record is built of it. -/
structure Reads (fields : Fields α) (found : String → Option Json) (a : α) : Prop where
  accepted : ∀ check ∈ fields.checks, ∀ value, found check.1 = some value →
    Decoder.Reads check.2 value ()
  built : ∀ (s : Surroundings) (document? : String → Option Document), s.fromText = false →
    (∀ name ∈ fields.names, document? name = (found name).map .ofJson) →
    fields.build s ⟨false, document?⟩ = .ok a

section Reads

variable {fields : Fields α} {found : String → Option Json} {a : α} {name : String}
  {decoder : Decoder α} {value : Json}

@[simp]
theorem names_map (f : α → β) : (f <$> fields).names = fields.names := rfl

@[simp]
theorem names_seq (first : Fields (α → β)) :
    (first <*> fields).names = first.names ++ fields.names :=
  List.map_append

@[simp]
theorem names_field (inObject inArray : Option (Surroundings → α)) :
    (field name decoder inObject inArray).names = [name] := rfl

@[simp]
theorem names_required : (required name decoder).names = [name] := rfl

@[simp]
theorem names_optional (default : α) : (optional name decoder default).names = [name] := rfl

@[simp]
theorem names_nullable : (nullable name decoder).names = [name] := rfl

@[simp]
theorem names_nullableOptional : (nullableOptional name decoder).names = [name] := rfl

theorem Reads.map (reads : fields.Reads found a) (f : α → β) :
    (f <$> fields).Reads found (f a) where
  accepted := reads.accepted
  built s document? plain same :=
    congrArg (Except.map f) (reads.built s document? plain same)

theorem Reads.seq {first : Fields (α → β)} {f : α → β} (readsFirst : first.Reads found f)
    (reads : fields.Reads found a) : (first <*> fields).Reads found (f a) where
  accepted check checkMem := by
    rcases List.mem_append.mp checkMem with checkMem | checkMem
    · exact readsFirst.accepted check checkMem
    · exact reads.accepted check checkMem
  built s document? plain same := by
    have builtFirst := readsFirst.built s document? plain fun name nameMem =>
      same name (by simp [nameMem])
    have built := reads.built s document? plain fun name nameMem =>
      same name (by simp [nameMem])
    change (first.build s ⟨false, document?⟩ >>= fun g =>
      fields.build s ⟨false, document?⟩ >>= fun a => Except.ok (g a)) = .ok (f a)
    rw [builtFirst, built]
    rfl

/-- A field is read off the value under its name. -/
theorem reads_field_present {inObject inArray : Option (Surroundings → α)}
    (present : found name = some value) (reads : decoder.Reads value a) :
    (field name decoder inObject inArray).Reads found a where
  accepted check checkMem other otherFound := by
    obtain rfl := List.mem_singleton.mp checkMem
    obtain rfl : value = other := Option.some.inj (present.symm.trans otherFound)
    exact fun s plain => congrArg (Except.map fun _ => ()) (reads s plain)
  built s document? plain same := by
    have here := same name List.mem_cons_self
    rw [present] at here
    simp only [field, here, Option.map_some]
    exact reads s plain

/-- A field with a default that is the same everywhere may be missing. -/
theorem reads_field_absent {inArray : Option (Surroundings → α)} (absent : found name = .none) :
    (field name decoder (some fun _ => a) inArray).Reads found a where
  accepted check checkMem other otherFound := by
    obtain rfl := List.mem_singleton.mp checkMem
    exact absurd (absent.symm.trans otherFound) (by simp)
  built s document? plain same := by
    have here := same name List.mem_cons_self
    rw [absent] at here
    simp only [field, here, Option.map_none]
    rfl

theorem reads_required (present : found name = some value) (reads : decoder.Reads value a) :
    (required name decoder).Reads found a :=
  reads_field_present present reads

theorem reads_optional (present : found name = some value) (reads : decoder.Reads value a)
    (default : α) : (optional name decoder default).Reads found a :=
  reads_field_present present reads

/-- A field that is written only if its value is worth it is read, if its default is what is
not worth it. -/
theorem reads_field_of_if {worth : Bool} {default : α} {inArray : Option (Surroundings → α)}
    (here : found name = if worth then some value else .none) (reads : decoder.Reads value a)
    (unworthy : worth = false → a = default) :
    (field name decoder (some fun _ => default) inArray).Reads found a := by
  cases worth with
  | true => exact reads_field_present here reads
  | false =>
      rw [unworthy rfl]
      exact reads_field_absent here

end Reads

/-! ## Objects -/

section Objects

variable {checks : List (String × Decoder Unit)} {s : Surroundings} {members : Bag}

section Members

variable {key : String} {value : Document} {ending : Ending} {found : List (String × Document)}
  {rest : List (Literal String × Document)}

theorem readMembers_cons :
    readMembers checks s ending found ((.ofValue key, value) :: rest) =
      match checks.lookup key with
      | some check =>
        if (found.lookup key).isSome then .error .mismatch
        else check s value >>= fun _ => readMembers checks s ending ((key, value) :: found) rest
      | .none => value.skip.mapError .fault >>= fun _ => readMembers checks s ending found rest :=
  rfl

theorem readMembers_known {check : Decoder Unit}
    (known : checks.lookup key = some check) (fresh : found.lookup key = .none)
    (passed : check s value = .ok ()) :
    readMembers checks s ending found ((.ofValue key, value) :: rest) =
      readMembers checks s ending ((key, value) :: found) rest := by
  rw [readMembers_cons, known, fresh]
  simp only [passed]
  rfl

theorem readMembers_unknown
    (unknown : checks.lookup key = .none) (skipped : value.skip = .ok ()) :
    readMembers checks s ending found ((.ofValue key, value) :: rest) =
      readMembers checks s ending found rest := by
  rw [readMembers_cons, unknown, skipped]
  rfl

end Members

/-- All members of an object are read: those under known names are found, and those under
other names are skipped. -/
theorem exists_readMembers (plain : s.fromText = false) (distinct : (members.map (·.1)).Nodup)
    (accepted : ∀ check ∈ checks, ∀ value, members.get? check.1 = some value →
      Decoder.Reads check.2 value ())
    {found : List (String × Document)}
    (fresh : ∀ member ∈ members, found.lookup member.1 = .none) :
    ∃ final, readMembers checks s .closed found (Document.ofMembers members) = .ok final ∧
      ∀ name ∈ checks.map (·.1), final.lookup name =
        ((members.get? name).map Document.ofJson).or (found.lookup name) := by
  induction members generalizing found with
  | nil => exact ⟨found, rfl, fun name _ => rfl⟩
  | cons member members ih =>
      obtain ⟨key, value⟩ := member
      obtain ⟨apart, distinctRest⟩ := List.nodup_cons.mp distinct
      replace apart (member : String × Json) (memberMem : member ∈ members) :
          member.1 ≠ key := by
        intro same
        exact apart (List.mem_map.mpr ⟨member, memberMem, same⟩)
      have absent : Bag.get? members key = .none := by
        rw [Bag.get?, List.lookup_eq_none_iff]
        intro member memberMem
        exact bne_iff_ne.mpr (apart member memberMem).symm
      have acceptedRest : ∀ check ∈ checks, ∀ value, Bag.get? members check.1 = some value →
          Decoder.Reads check.2 value () := by
        intro check checkMem other otherFound
        apply accepted check checkMem
        rw [Bag.get?_cons_of_ne]
        · exact otherFound
        · rintro same
          rw [same, absent] at otherFound
          contradiction
      have freshKey : found.lookup key = .none := fresh (key, value) List.mem_cons_self
      rw [Document.ofMembers]
      cases known : checks.lookup key with
      | some check =>
          have checkMem : (key, check) ∈ checks := by
            obtain ⟨before, after, rfl, _⟩ := List.lookup_eq_some_iff.mp known
            simp
          have passed := accepted (key, check) checkMem value (Bag.get?_cons_self _ _ _) s plain
          have freshRest : ∀ member ∈ members,
              List.lookup member.1 ((key, Document.ofJson value) :: found) = .none := by
            intro member memberMem
            rw [List.lookup_cons, beq_eq_false_iff_ne.mpr (apart member memberMem)]
            exact fresh member (List.mem_cons_of_mem _ memberMem)
          obtain ⟨final, read, there⟩ := ih distinctRest acceptedRest freshRest
          refine ⟨final, ?_, fun name nameMem => ?_⟩
          · rw [readMembers_known known freshKey passed, read]
          · rw [there name nameMem]
            by_cases same : name = key
            · subst same
              rw [absent, Bag.get?_cons_self, List.lookup_cons, beq_self_eq_true]
              rfl
            · rw [Bag.get?_cons_of_ne same, List.lookup_cons, beq_eq_false_iff_ne.mpr same]
      | none =>
          obtain ⟨final, read, there⟩ := ih distinctRest acceptedRest
            fun member memberMem => fresh member (List.mem_cons_of_mem _ memberMem)
          refine ⟨final, ?_, fun name nameMem => ?_⟩
          · rw [readMembers_unknown known (Document.skip_ofJson value), read]
          · have different : name ≠ key := by
              rintro rfl
              obtain ⟨check, checkMem, rfl⟩ := List.mem_map.mp nameMem
              have other := List.lookup_eq_none_iff.mp known check checkMem
              simp at other
            rw [there name nameMem, Bag.get?_cons_of_ne different]

/-- A record is read off an object when its fields are read off the members. -/
theorem Reads.decoder {α : Type} {fields : Fields α} {a : α}
    (reads : fields.Reads members.get? a) (distinct : (members.map (·.1)).Nodup) :
    Decoder.Reads fields.decoder (.object members) a := by
  intro s plain
  obtain ⟨final, read, there⟩ :=
    exists_readMembers plain distinct reads.accepted fun _ _ => List.lookup_nil
  have built := reads.built s (fun name => final.lookup name) plain fun name nameMem => by
    rw [there name nameMem, List.lookup_nil, Option.or_none]
  rw [Document.ofJson, Fields.decoder, Decoder.enter_of_not_fromText plain]
  change (readMembers fields.checks s .closed [] (Document.ofMembers members) >>= fun found =>
    fields.build s ⟨false, fun name => found.lookup name⟩) = .ok a
  rw [read]
  exact built

end Objects

end Fields

end EventFlow
