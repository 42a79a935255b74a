import EventFlow.Template
import EventFlow.Proofs.Json.Navigation
import EventFlow.Proofs.Param.Validation

/-!
# Rendering keeps the shape of a value

Rendering a value gives each of its strings another text and leaves all else where it is: the keys
of objects, the items of arrays and their order, and whatever is no string.  So it makes no
difference whether a value is walked down before it is rendered or after.
-/

namespace EventFlow

open EventFlow.Json (Position Turn)

/-- The second value is the first with another text for each string: keys, items and their order
are the same, and so is whatever is no string. -/
inductive Json.Retexted (text : String → String) : Json → Json → Prop
  | null : Retexted text .null .null
  | bool (b : Bool) : Retexted text (.bool b) (.bool b)
  | number (n : Number) : Retexted text (.number n) (.number n)
  | string (s : String) : Retexted text (.string s) (.string (text s))
  | array {items others : List Json} (inside : List.Forall₂ (Retexted text) items others) :
      Retexted text (.array items) (.array others)
  | object {members others : List (String × Json)}
      (keys : others.map (·.1) = members.map (·.1))
      (inside : List.Forall₂ (Retexted text) (members.map (·.2)) (others.map (·.2))) :
      Retexted text (.object members) (.object others)

namespace Renderer

section Shape

variable {renderer : Renderer} {vars : Bag}

theorem items_eq_map (items : List Json) :
    renderer.items vars items = items.map (renderer.value vars) := by
  induction items with
  | nil => rfl
  | cons item rest ih => rw [Renderer.items, ih, List.map_cons]

theorem members_eq_map (members : List (String × Json)) :
    renderer.members vars members =
      members.map fun member => (member.1, renderer.value vars member.2) := by
  induction members with
  | nil => rfl
  | cons member rest ih => rw [Renderer.members, ih, List.map_cons]

theorem map_fst_members (members : List (String × Json)) :
    (renderer.members vars members).map (·.1) = members.map (·.1) := by
  rw [members_eq_map, List.map_map]
  rfl

/-- What is found under a key is rendered, whatever the key. -/
theorem get?_members (members : Bag) (key : String) :
    Bag.get? (renderer.members vars members) key =
      (members.get? key).map (renderer.value vars) := by
  induction members with
  | nil => rfl
  | cons member rest ih =>
      obtain ⟨name, inner⟩ := member
      rw [Renderer.members]
      by_cases here : key = name
      · subst here
        rw [Bag.get?_cons_self, Bag.get?_cons_self, Option.map_some]
      · rw [Bag.get?_cons_of_ne here, Bag.get?_cons_of_ne here, ih]

/-! ## Walking down -/

theorem child?_value (value : Json) (segment : List Char) :
    (renderer.value vars value).child? segment =
      (value.child? segment).map (renderer.value vars) := by
  cases value with
  | object members =>
      rw [Renderer.value]
      exact get?_members members (String.ofList segment)
  | array items =>
      rw [Renderer.value, items_eq_map, Json.child?, Json.child?, Option.map_bind]
      simp only [List.getElem?_map, Function.comp_def]
  | null | bool b | number n | string s =>
      rw [Renderer.value]
      rfl

theorem descend?_value (value : Json) (segments : List (List Char)) :
    (renderer.value vars value).descend? segments =
      (value.descend? segments).map (renderer.value vars) := by
  induction segments generalizing value with
  | nil => rfl
  | cons segment segments ih =>
      rw [Json.descend?, Json.descend?, List.foldlM_cons, List.foldlM_cons, child?_value]
      cases value.child? segment with
      | none => rfl
      | some inner => exact ih inner

/-- A position of a rendered value holds what stands there, rendered. -/
theorem position_value_iff {value target : Json} {turns : List Turn} :
    Position (renderer.value vars value) turns target ↔
      ∃ inner, Position value turns inner ∧ target = renderer.value vars inner := by
  constructor
  · intro position
    induction turns generalizing value with
    | nil => exact ⟨value, .here value, Json.position_nil_iff.mp position⟩
    | cons turn turns ih =>
        cases value with
        | object members =>
            rw [Renderer.value, members_eq_map] at position
            cases position with
            | member rendered below =>
                obtain ⟨member, memberMem, same⟩ := List.mem_map.mp rendered
                cases same
                obtain ⟨inner, position, rendered⟩ := ih below
                exact ⟨inner, .member memberMem position, rendered⟩
        | array items =>
            rw [Renderer.value, items_eq_map] at position
            cases position with
            | item found below =>
                rw [List.getElem?_map, Option.map_eq_some_iff] at found
                obtain ⟨item, found, rfl⟩ := found
                obtain ⟨inner, position, rendered⟩ := ih below
                exact ⟨inner, .item found position, rendered⟩
        | null | bool b | number n | string s =>
            rw [Renderer.value] at position
            cases position
  · rintro ⟨inner, position, rfl⟩
    induction position with
    | here value => exact .here _
    | member memberMem below ih =>
        rw [Renderer.value, members_eq_map]
        exact .member (List.mem_map_of_mem memberMem) ih
    | item found below ih =>
        rw [Renderer.value, items_eq_map]
        apply Position.item _ ih
        rw [List.getElem?_map, found, Option.map_some]

/-! ## Texts -/

mutual

/-- Rendering gives each string of a value its text. -/
theorem retexted_value (value : Json) :
    Json.Retexted (renderer · vars) value (renderer.value vars value) := by
  cases value with
  | null => exact .null
  | bool b => exact .bool b
  | number n => exact .number n
  | string s => exact .string s
  | array items => exact .array (retexted_items items)
  | object members => exact .object (map_fst_members members) (retexted_members members)

/-- Rendering gives each string of some items its text. -/
theorem retexted_items (items : List Json) :
    List.Forall₂ (Json.Retexted (renderer · vars)) items (renderer.items vars items) := by
  cases items with
  | nil => exact .nil
  | cons item rest => exact .cons (retexted_value item) (retexted_items rest)

/-- Rendering gives each string of some members its text. -/
theorem retexted_members (members : List (String × Json)) :
    List.Forall₂ (Json.Retexted (renderer · vars)) (members.map (·.2))
      ((renderer.members vars members).map (·.2)) := by
  cases members with
  | nil => exact .nil
  | cons member rest => exact .cons (retexted_value member.2) (retexted_members rest)

end

theorem admits_value (type : ParamType) (value : Json) :
    type.admits (renderer.value vars value) = type.admits value := by
  cases type <;> cases value <;> rfl

end Shape

/-- Rendering changes nothing but the texts of strings.  What is found at a path of a rendered
value is what was found there, rendered, and so is what stands at any position, keys with dots on
the way or not.  Each string has the text that the renderer makes of it, and all else is as it
was.  Parameters are rendered as the object that they make up: none comes, goes, moves or turns
into a value of another type. -/
theorem value_keepsShape (renderer : Renderer) (vars : Bag) (value : Json) :
    (∀ path, (renderer.value vars value).lookup? path =
      (value.lookup? path).map (renderer.value vars)) ∧
    (∀ turns target, Position (renderer.value vars value) turns target ↔
      ∃ inner, Position value turns inner ∧ target = renderer.value vars inner) ∧
    Json.Retexted (renderer · vars) value (renderer.value vars value) ∧
    ∀ params : Bag,
      Json.object (renderer.params vars params) = renderer.value vars (.object params) ∧
      (renderer.params vars params).map (·.1) = params.map (·.1) ∧
      ∀ key, (renderer.params vars params).get? key =
          (params.get? key).map (renderer.value vars) ∧
        ∀ type : ParamType, ((renderer.params vars params).get? key).map type.admits =
          (params.get? key).map type.admits := by
  refine ⟨fun path => descend?_value value _, fun turns target => position_value_iff,
    retexted_value value, fun params => ⟨rfl, map_fst_members params, fun key => ?_⟩⟩
  have found : (renderer.params vars params).get? key =
      (params.get? key).map (renderer.value vars) := get?_members params key
  refine ⟨found, fun type => ?_⟩
  rw [found, Option.map_map]
  exact congrFun (congrArg Option.map (funext (admits_value type))) _

end Renderer

end EventFlow
