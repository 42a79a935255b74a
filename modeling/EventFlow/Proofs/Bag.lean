import EventFlow.Json.Access
import Mathlib.Data.List.Nodup

/-!
# Looking up members of bags

What is put into a bag is found there, whatever the bag held under its key, and nothing
else in the bag is touched.  So of two bags of which one is put into the other, the one that
is put in last decides.
-/

namespace EventFlow.Bag

variable {more : Bag} {key other : String} {value : Json}

@[simp]
theorem get?_nil (key : String) : get? [] key = none := rfl

@[simp]
theorem get?_cons_self (key : String) (value : Json) (bag : Bag) :
    get? ((key, value) :: bag) key = some value :=
  List.lookup_cons_self

theorem get?_cons_of_ne (different : other ≠ key) (value : Json) (bag : Bag) :
    get? ((key, value) :: bag) other = bag.get? other := by
  have apart : (other == key) = false := beq_eq_false_iff_ne.mpr different
  rw [get?, List.lookup_cons, apart, get?]

@[simp]
theorem get?_insert (bag : Bag) (key : String) (value : Json) :
    (insert key value bag).get? key = some value := by
  induction bag with
  | nil => exact get?_cons_self key value []
  | cons member rest ih =>
      rcases member with ⟨k, v⟩
      rw [insert]
      split
      · exact get?_cons_self key value rest
      · rename_i different
        split
        · exact get?_cons_self key value _
        · rw [get?_cons_of_ne different, ih]

theorem get?_insert_of_ne (different : other ≠ key) (value : Json) (bag : Bag) :
    (insert key value bag).get? other = bag.get? other := by
  induction bag with
  | nil => exact get?_cons_of_ne different value []
  | cons member rest ih =>
      rcases member with ⟨k, v⟩
      rw [insert]
      split
      · rename_i same
        subst same
        rw [get?_cons_of_ne different, get?_cons_of_ne different]
      · split
        · exact get?_cons_of_ne different value _
        · by_cases here : other = k
          · rw [here, get?_cons_self, get?_cons_self]
          · rw [get?_cons_of_ne here, get?_cons_of_ne here, ih]

/-- An integer of 64 bits under a key is found as it is. -/
theorem getInteger?_of_get? {bag : Bag} {n : Int} (fits : Text.Range.signed64.contains n = true)
    (held : bag.get? key = some (.ofInt n)) : bag.getInteger? key = some n := by
  rw [getInteger?, held, Option.bind_some, Json.ofInt, Json.looseInteger?, Json.Number.toInteger,
    if_pos fits]

@[simp]
theorem extend_nil (bag : Bag) : extend bag [] = bag := rfl

@[simp]
theorem extend_cons (bag more : Bag) (member : String × Json) :
    extend bag (member :: more) = extend (insert member.1 member.2 bag) more := rfl

/-- Of a bag that has been put into another the last member of a key decides; a key that it does
not have is not touched. -/
theorem get?_extend (bag more : Bag) (key : String) :
    (extend bag more).get? key = (more.reverse.lookup key).or (bag.get? key) := by
  induction more generalizing bag with
  | nil => rfl
  | cons member rest ih =>
      rw [extend_cons, ih, List.reverse_cons, List.lookup_append, Option.or_assoc]
      congr 1
      by_cases here : key = member.1
      · subst here
        rw [get?_insert, List.lookup_cons_self, Option.some_or]
      · have other : List.lookup key [member] = none := by simp [List.lookup_eq_none_iff, here]
        rw [get?_insert_of_ne here, other, Option.none_or]

/-- Among entries with different keys each is found under its key. -/
theorem lookup_eq_some_iff_mem {β : Type} {entries : List (String × β)} {b : β}
    (distinct : (entries.map (·.1)).Nodup) :
    entries.lookup key = some b ↔ (key, b) ∈ entries := by
  rw [List.lookup_eq_some_iff]
  constructor
  · rintro ⟨front, back, rfl, _⟩
    exact List.mem_append_right front List.mem_cons_self
  · intro entryMem
    obtain ⟨front, back, rfl⟩ := List.append_of_mem entryMem
    refine ⟨front, back, rfl, fun earlier earlierMem => bne_iff_ne.mpr fun same => ?_⟩
    rw [List.map_append, List.map_cons] at distinct
    apply (List.nodup_append.mp distinct).2.2 _ _ _ List.mem_cons_self same.symm
    exact List.mem_map_of_mem earlierMem

/-- The keys of entries are those under which something is found. -/
theorem mem_keys_iff {β : Type} {entries : List (String × β)} :
    key ∈ entries.map (·.1) ↔ ∃ b, entries.lookup key = some b := by
  rw [← Option.isSome_iff_exists, List.lookup_isSome_iff, List.mem_map]
  simp only [beq_iff_eq, eq_comm (a := key)]

/-- A key that a bag does not have is not touched when the bag is put into another. -/
theorem get?_extend_of_absent (absent : more.get? key = none) (bag : Bag) :
    (extend bag more).get? key = bag.get? key := by
  have absentReversed : more.reverse.lookup key = none := by
    rw [get?, List.lookup_eq_none_iff] at absent
    rw [List.lookup_eq_none_iff]
    exact fun member memberMem => absent member (List.mem_reverse.mp memberMem)
  rw [get?_extend, absentReversed, Option.none_or]

/-- A member of a bag with different keys is what is found when the bag has been put into
another. -/
theorem get?_extend_of_present (distinct : (more.map (·.1)).Nodup)
    (present : more.get? key = some value) (bag : Bag) :
    (extend bag more).get? key = some value := by
  have distinctReversed : (more.reverse.map (·.1)).Nodup := by
    rwa [List.map_reverse, List.nodup_reverse]
  have presentReversed : more.reverse.lookup key = some value := by
    rw [lookup_eq_some_iff_mem distinctReversed, List.mem_reverse]
    exact (lookup_eq_some_iff_mem distinct).mp present
  rw [get?_extend, presentReversed, Option.some_or]

/-- In a bag of given members the last of each key counts. -/
theorem get?_ofList_eq_lookup_reverse (members : List (String × Json)) (key : String) :
    (ofList members).get? key = members.reverse.lookup key := by
  rw [ofList, get?_extend, get?_nil, Option.or_none]

theorem mem_keys_ofList_iff {members : List (String × Json)} :
    key ∈ (ofList members).map (·.1) ↔ key ∈ members.map (·.1) := by
  have found : (ofList members).lookup key = members.reverse.lookup key :=
    get?_ofList_eq_lookup_reverse members key
  rw [mem_keys_iff, found, ← mem_keys_iff, List.map_reverse, List.mem_reverse]

/-- What is found in a bag of given members is the last of them under the key. -/
theorem get?_ofList_eq_some_iff {members : List (String × Json)} :
    (ofList members).get? key = some value ↔
      ∃ front back, members = front ++ (key, value) :: back ∧ ∀ later ∈ back, later.1 ≠ key := by
  rw [get?_ofList_eq_lookup_reverse, List.lookup_eq_some_iff]
  constructor
  · rintro ⟨behind, before, reversed, others⟩
    refine ⟨before.reverse, behind.reverse, ?_, fun later laterMem => ?_⟩
    · rw [← List.reverse_reverse members, reversed]
      simp
    · exact (bne_iff_ne.mp (others later (List.mem_reverse.mp laterMem))).symm
  · rintro ⟨front, back, rfl, others⟩
    refine ⟨back.reverse, front.reverse, by simp, fun later laterMem => ?_⟩
    exact bne_iff_ne.mpr (others later (List.mem_reverse.mp laterMem)).symm

end EventFlow.Bag
