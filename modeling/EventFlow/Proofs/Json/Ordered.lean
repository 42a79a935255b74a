import EventFlow.Json.Document
import EventFlow.Proofs.Bag

/-!
# Values with ordered objects

All operations of the library keep an object sorted by key, each key once.  Such a bag is what
its members make up, in whatever way they are put together again, and a value in which all
objects are sorted is read off its own document as it is.
-/

namespace EventFlow

namespace Bag

/-- A bag that is sorted by key, each key once. -/
def Sorted (bag : Bag) : Prop :=
  bag.Pairwise fun member later => member.1 < later.1

instance {bag : Bag} : Decidable bag.Sorted :=
  inferInstanceAs (Decidable (List.Pairwise _ _))

variable {bag more : Bag} {key other : String} {value : Json}

theorem Sorted.distinct (sorted : bag.Sorted) : (bag.map (·.1)).Nodup := by
  apply List.pairwise_map.mpr
  apply List.Pairwise.imp _ sorted
  intro member later less same
  rw [same] at less
  exact String.lt_irrefl _ less

/-- A member under a later key is put in at the end. -/
theorem insert_of_forall_lt (less : ∀ member ∈ bag, member.1 < key) (value : Json) :
    insert key value bag = bag ++ [(key, value)] := by
  induction bag with
  | nil => rfl
  | cons member bag ih =>
      obtain ⟨k, v⟩ := member
      have here : k < key := less (k, v) List.mem_cons_self
      have different : key ≠ k := by
        rintro rfl
        exact String.lt_irrefl _ here
      rw [insert, if_neg different, if_neg (String.lt_asymm here),
        ih fun member memberMem => less member (List.mem_cons_of_mem _ memberMem)]
      rfl

/-- Members that come behind those of a bag are put in at its end. -/
theorem extend_of_sorted (sorted : (bag ++ more).Sorted) : extend bag more = bag ++ more := by
  induction more generalizing bag with
  | nil => rw [extend_nil, List.append_nil]
  | cons member more ih =>
      obtain ⟨_, _, across⟩ := List.pairwise_append.mp sorted
      have less : ∀ earlier ∈ bag, earlier.1 < member.1 := fun earlier earlierMem =>
        across earlier earlierMem member List.mem_cons_self
      have moved : bag ++ member :: more = (bag ++ [member]) ++ more := by simp
      rw [moved] at sorted
      rw [extend_cons, insert_of_forall_lt less, ih sorted, moved]

theorem ofList_of_sorted (sorted : bag.Sorted) : ofList bag = bag :=
  extend_of_sorted (show Bag.Sorted ([] ++ bag) from sorted)

/-- What is put in stands under its key, and nothing else is new. -/
theorem mem_insert {member : String × Json} (memberMem : member ∈ insert key value bag) :
    member = (key, value) ∨ member ∈ bag := by
  induction bag with
  | nil => exact .inl (List.mem_singleton.mp memberMem)
  | cons first bag ih =>
      obtain ⟨k, v⟩ := first
      rw [insert] at memberMem
      split at memberMem
      · rcases List.mem_cons.mp memberMem with rfl | memberMem
        · exact .inl rfl
        · exact .inr (List.mem_cons_of_mem _ memberMem)
      · split at memberMem
        · exact List.mem_cons.mp memberMem
        · rcases List.mem_cons.mp memberMem with rfl | memberMem
          · exact .inr List.mem_cons_self
          · exact (ih memberMem).imp_right (List.mem_cons_of_mem _)

theorem Sorted.insert (sorted : bag.Sorted) (key : String) (value : Json) :
    (insert key value bag).Sorted := by
  induction bag with
  | nil => exact List.pairwise_singleton _ _
  | cons first bag ih =>
      obtain ⟨k, v⟩ := first
      obtain ⟨below, sortedRest⟩ := List.pairwise_cons.mp sorted
      rw [Bag.insert]
      split
      · rename_i same
        subst same
        exact List.pairwise_cons.mpr ⟨below, sortedRest⟩
      · rename_i different
        split
        · rename_i less
          refine List.pairwise_cons.mpr ⟨fun later laterMem => ?_, sorted⟩
          rcases List.mem_cons.mp laterMem with rfl | laterMem
          · exact less
          · exact String.lt_trans less (below later laterMem)
        · rename_i notLess
          refine List.pairwise_cons.mpr ⟨fun later laterMem => ?_, ih sortedRest⟩
          rcases mem_insert laterMem with rfl | laterMem
          · by_contra notGreater
            apply different
            exact String.le_antisymm (String.not_lt.mp notGreater) (String.not_lt.mp notLess)
          · exact below later laterMem

theorem Sorted.extend (sorted : bag.Sorted) (more : Bag) : (extend bag more).Sorted := by
  induction more generalizing bag with
  | nil => exact sorted
  | cons member more ih => exact ih (sorted.insert _ _)

/-- Whatever the members are, their bag is sorted. -/
theorem sorted_ofList (members : List (String × Json)) : (ofList members).Sorted :=
  Sorted.extend List.Pairwise.nil members

/-- A bag has no members but those that it is made of. -/
theorem mem_extend {member : String × Json} (memberMem : member ∈ extend bag more) :
    member ∈ bag ∨ member ∈ more := by
  induction more generalizing bag with
  | nil => exact .inl memberMem
  | cons first more ih =>
      rcases ih memberMem with memberMem | memberMem
      · rcases mem_insert memberMem with rfl | memberMem
        · exact .inr List.mem_cons_self
        · exact .inl memberMem
      · exact .inr (List.mem_cons_of_mem _ memberMem)

theorem mem_ofList {member : String × Json} {members : List (String × Json)}
    (memberMem : member ∈ ofList members) : member ∈ members :=
  (mem_extend memberMem).resolve_left List.not_mem_nil

/-- Of members with different keys each is found in their bag, and nothing else. -/
theorem get?_ofList {members : List (String × Json)} (distinct : (members.map (·.1)).Nodup)
    (key : String) : (ofList members).get? key = members.lookup key := by
  cases found : members.lookup key with
  | none => exact get?_extend_of_absent found []
  | some value => exact get?_extend_of_present distinct found []

end Bag

namespace Json

/-- All objects in a value are sorted by key, each key once. -/
inductive Ordered : Json → Prop
  | null : Ordered .null
  | bool (b : Bool) : Ordered (.bool b)
  | number (n : Number) : Ordered (.number n)
  | string (s : String) : Ordered (.string s)
  | array {items : List Json} (inside : ∀ item ∈ items, Ordered item) : Ordered (.array items)
  | object {members : Bag} (sorted : members.Sorted)
      (inside : ∀ member ∈ members, Ordered member.2) : Ordered (.object members)

theorem ordered_singleton {key : String} {value : Json} (ordered : value.Ordered) :
    (object [(key, value)]).Ordered := by
  refine .object (List.pairwise_singleton _ _) fun member memberMem => ?_
  obtain rfl := List.mem_singleton.mp memberMem
  exact ordered

/-- Members of any order make up an ordered object if their values are ordered. -/
theorem ordered_ofList {members : List (String × Json)}
    (inside : ∀ member ∈ members, member.2.Ordered) : (object (Bag.ofList members)).Ordered :=
  .object (Bag.sorted_ofList members) fun _ memberMem => inside _ (Bag.mem_ofList memberMem)

namespace Document

/-- What has been read in two steps has been read in each of them. -/
theorem exists_of_bind_eq_ok {α β : Type} {first : Except Fault α} {next : α → Except Fault β}
    {b : β} (read : (first >>= next) = .ok b) : ∃ a, first = .ok a ∧ next a = .ok b := by
  cases first with
  | error fault => cases read
  | ok a => exact ⟨a, rfl, read⟩

mutual

/-- Whatever is read off a document is ordered. -/
theorem ordered_of_toJson {depth : Nat} {value : Json} (document : Document)
    (read : document.toJson depth = .ok value) : value.Ordered := by
  cases document with
  | null =>
      rw [toJson] at read
      cases read
      exact .null
  | bool b =>
      rw [toJson] at read
      cases read
      exact .bool b
  | number literal =>
      rw [toJson] at read
      cases given : literal.value with
      | error fault =>
          rw [given] at read
          cases read
      | ok n =>
          rw [given] at read
          cases read
          exact .number n
  | string literal =>
      rw [toJson] at read
      cases given : literal.value with
      | error fault =>
          rw [given] at read
          cases read
      | ok text =>
          rw [given] at read
          cases read
          exact .string text
  | broken fault letter =>
      rw [toJson] at read
      cases read
  | array items ending =>
      cases depth with
      | zero => cases read
      | succ depth =>
          rw [toJson] at read
          obtain ⟨values, readItems, read⟩ := exists_of_bind_eq_ok read
          obtain ⟨_, _, same⟩ := exists_of_bind_eq_ok read
          cases same
          exact .array (ordered_of_toItems items readItems)
  | object members ending =>
      cases depth with
      | zero => cases read
      | succ depth =>
          rw [toJson] at read
          obtain ⟨values, readMembers, read⟩ := exists_of_bind_eq_ok read
          obtain ⟨_, _, same⟩ := exists_of_bind_eq_ok read
          cases same
          exact ordered_ofList (ordered_of_toMembers members readMembers)

/-- Whatever items are read are ordered. -/
theorem ordered_of_toItems {depth : Nat} {values : List Json} (items : List Document)
    (read : toItems depth items = .ok values) : ∀ value ∈ values, value.Ordered := by
  cases items with
  | nil =>
      rw [toItems] at read
      cases read
      simp
  | cons item items =>
      rw [toItems] at read
      obtain ⟨first, readFirst, read⟩ := exists_of_bind_eq_ok read
      obtain ⟨rest, readRest, same⟩ := exists_of_bind_eq_ok read
      cases same
      exact List.forall_mem_cons.mpr
        ⟨ordered_of_toJson item readFirst, ordered_of_toItems items readRest⟩

/-- Whatever members are read have ordered values. -/
theorem ordered_of_toMembers {depth : Nat} {values : List (String × Json)}
    (members : List (Literal String × Document)) (read : toMembers depth members = .ok values) :
    ∀ member ∈ values, member.2.Ordered := by
  cases members with
  | nil =>
      rw [toMembers] at read
      cases read
      simp
  | cons member members =>
      obtain ⟨key, value⟩ := member
      rw [toMembers] at read
      obtain ⟨name, _, read⟩ := exists_of_bind_eq_ok read
      obtain ⟨first, readFirst, read⟩ := exists_of_bind_eq_ok read
      obtain ⟨rest, readRest, same⟩ := exists_of_bind_eq_ok read
      cases same
      exact List.forall_mem_cons.mpr
        ⟨ordered_of_toJson value readFirst, ordered_of_toMembers members readRest⟩

end

/-- Items are read off their documents when each of them is. -/
theorem toItems_ofItems {depth : Nat} {items : List Json}
    (read : ∀ item ∈ items, (ofJson item).height ≤ depth →
      (ofJson item).toJson depth = .ok item)
    (shallow : itemsHeight (ofItems items) ≤ depth) :
    toItems depth (ofItems items) = .ok items := by
  induction items with
  | nil => rfl
  | cons item items ih =>
      rw [ofItems, itemsHeight, Nat.max_le] at shallow
      have first := read item List.mem_cons_self shallow.1
      have rest := ih (fun other otherMem => read other (List.mem_cons_of_mem _ otherMem))
        shallow.2
      rw [ofItems, toItems, first, rest]
      rfl

/-- Members are read off their documents when the value of each of them is. -/
theorem toMembers_ofMembers {depth : Nat} {members : List (String × Json)}
    (read : ∀ member ∈ members, (ofJson member.2).height ≤ depth →
      (ofJson member.2).toJson depth = .ok member.2)
    (shallow : membersHeight (ofMembers members) ≤ depth) :
    toMembers depth (ofMembers members) = .ok members := by
  induction members with
  | nil => rfl
  | cons member members ih =>
      obtain ⟨key, value⟩ := member
      rw [ofMembers, membersHeight, Nat.max_le] at shallow
      have first := read (key, value) List.mem_cons_self shallow.1
      have rest := ih (fun other otherMem => read other (List.mem_cons_of_mem _ otherMem))
        shallow.2
      rw [ofMembers, toMembers, first, rest]
      rfl

/-- A value with ordered objects is read off its document. -/
theorem toJson_ofJson {value : Json} (ordered : value.Ordered) {depth : Nat}
    (shallow : (ofJson value).height ≤ depth) : (ofJson value).toJson depth = .ok value := by
  induction ordered generalizing depth with
  | null => rw [ofJson, toJson]
  | bool b => rw [ofJson, toJson]
  | number n =>
      rw [ofJson, toJson]
      rfl
  | string s =>
      rw [ofJson, toJson]
      rfl
  | array inside ih =>
      rw [ofJson, height] at shallow
      cases depth with
      | zero => omega
      | succ depth =>
          have read := toItems_ofItems (fun item itemMem shallow => ih item itemMem shallow)
            (show _ ≤ depth by omega)
          rw [ofJson, toJson, read]
          rfl
  | @object members sorted inside ih =>
      rw [ofJson, height] at shallow
      cases depth with
      | zero => omega
      | succ depth =>
          have read := toMembers_ofMembers
            (fun member memberMem shallow => ih member memberMem shallow)
            (show _ ≤ depth by omega)
          rw [ofJson, toJson, read]
          have whole : Bag.ofList members = members := Bag.ofList_of_sorted sorted
          exact congrArg (fun members => Except.ok (Json.object members)) whole

mutual

/-- The document of a value can be skipped. -/
theorem skip_ofJson (value : Json) : (ofJson value).skip = .ok () := by
  cases value with
  | null => rw [ofJson, skip]
  | bool b => rw [ofJson, skip]
  | number n =>
      rw [ofJson, skip]
      rfl
  | string s =>
      rw [ofJson, skip]
      rfl
  | array items =>
      rw [ofJson, skip, skipItems_ofItems items]
      rfl
  | object members =>
      rw [ofJson, skip, skipMembers_ofMembers members]
      rfl

/-- The documents of items can be skipped. -/
theorem skipItems_ofItems (items : List Json) : skipItems (ofItems items) = .ok () := by
  cases items with
  | nil => rfl
  | cons item items =>
      rw [ofItems, skipItems, skip_ofJson item, skipItems_ofItems items]
      rfl

/-- The documents of members can be skipped. -/
theorem skipMembers_ofMembers (members : List (String × Json)) :
    skipMembers (ofMembers members) = .ok () := by
  cases members with
  | nil => rfl
  | cons member members =>
      obtain ⟨key, value⟩ := member
      rw [ofMembers, skipMembers, skip_ofJson value, skipMembers_ofMembers members]
      rfl

end

end Document

end Json

end EventFlow
