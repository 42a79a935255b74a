import EventFlow.Ingredient
import EventFlow.Proofs.Json.Ordered

/-!
# What is taken out of an event

An ingredient without a name does not matter.  Of the others the first that is required and
missing decides: its fault is the result.  If there is none, every ingredient whose path leads to
a value gives this value to its name, and of several of one name the last that leads to a value.
-/

namespace EventFlow.Ingredient

/-- What the paths of ingredients start at: the event under `payload` and, if there is one, the
piece of it under `item`. -/
def event (payload : Bag) (item : Option Json) : Json :=
  .object (Bag.ofList
    (("payload", .object payload) :: (item.map fun piece => ("item", piece)).toList))

theorem root_eq_event (payload : Bag) (item : Option Json) :
    root payload item = event payload item := by
  cases item with
  | none => rfl
  | some piece =>
      have different : ("item" : String) ≠ "payload" := by decide
      have less : ("item" : String) < "payload" := by decide
      simp [root, event, Bag.ofList, Bag.insert, different, less]

/-- The ingredients that have a name. -/
def named (ingredients : List Ingredient) : List Ingredient :=
  ingredients.filter fun ingredient => ingredient.name ≠ ""

/-! ## One ingredient -/

/-- The path of an ingredient leads to a value, which may be null. -/
def Resolves (start : Json) (ingredient : Ingredient) (value : Json) : Prop :=
  ingredient.path ≠ "" ∧ start.lookup? ingredient.path = some value

/-- An ingredient is required, and it has no path or its path leads nowhere. -/
def Missing (start : Json) (ingredient : Ingredient) : Prop :=
  ingredient.required = true ∧
    (ingredient.path = "" ∨ start.lookup? ingredient.path = none)

instance {start : Json} {ingredient : Ingredient} : Decidable (ingredient.Missing start) :=
  inferInstanceAs (Decidable (_ ∧ _))

/-- The fault of a required ingredient that is missing. -/
inductive Lacks (start : Json) (ingredient : Ingredient) : IngredientError → Prop
  | path (required : ingredient.required = true) (blank : ingredient.path = "") :
      Lacks start ingredient (.pathRequired ingredient.name)
  | value (required : ingredient.required = true) (asked : ingredient.path ≠ "")
      (unresolved : start.lookup? ingredient.path = none) :
      Lacks start ingredient (.notFound ingredient.name ingredient.path)

variable {start : Json} {ingredient : Ingredient} {ingredients : List Ingredient}
  {fault : IngredientError} {value : Json} {name : String} {taken : Bag}

theorem missing_iff_exists_lacks :
    ingredient.Missing start ↔ ∃ fault, ingredient.Lacks start fault := by
  constructor
  · rintro ⟨required, without⟩
    by_cases blank : ingredient.path = ""
    · exact ⟨_, .path required blank⟩
    · exact ⟨_, .value required blank (without.resolve_left blank)⟩
  · rintro ⟨fault, lacks⟩
    cases lacks with
    | path required blank => exact ⟨required, .inl blank⟩
    | value required asked unresolved => exact ⟨required, .inr unresolved⟩

theorem take_of_blank (blank : ingredient.path = "") :
    ingredient.take start =
      if ingredient.required then .error (.pathRequired ingredient.name) else .ok none := by
  rw [take, if_pos blank]

theorem take_of_unresolved (asked : ingredient.path ≠ "")
    (unresolved : start.lookup? ingredient.path = none) :
    ingredient.take start =
      if ingredient.required then .error (.notFound ingredient.name ingredient.path)
      else .ok none := by
  rw [take, if_neg asked, unresolved]

theorem Resolves.take (resolves : ingredient.Resolves start value) :
    ingredient.take start = .ok (some value) := by
  rw [Ingredient.take, if_neg resolves.1, resolves.2]

theorem Lacks.take (lacks : ingredient.Lacks start fault) :
    ingredient.take start = .error fault := by
  cases lacks with
  | path required blank => rw [take_of_blank blank, if_pos required]
  | value required asked unresolved => rw [take_of_unresolved asked unresolved, if_pos required]

/-- An ingredient is missing, or it is found, or it may be missing and is. -/
theorem take_cases (start : Json) (ingredient : Ingredient) :
    (∃ fault, ingredient.Lacks start fault) ∨ (∃ value, ingredient.Resolves start value) ∨
      ingredient.take start = .ok none := by
  by_cases blank : ingredient.path = ""
  · by_cases required : ingredient.required = true
    · exact .inl ⟨_, .path required blank⟩
    · exact .inr (.inr (by rw [take_of_blank blank, if_neg required]))
  · cases found : start.lookup? ingredient.path with
    | some value => exact .inr (.inl ⟨value, blank, found⟩)
    | none =>
        by_cases required : ingredient.required = true
        · exact .inl ⟨_, .value required blank found⟩
        · exact .inr (.inr (by rw [take_of_unresolved blank found, if_neg required]))

theorem take_eq_error_iff :
    ingredient.take start = .error fault ↔ ingredient.Lacks start fault := by
  constructor
  · intro failed
    rcases take_cases start ingredient with ⟨other, lacks⟩ | ⟨value, resolves⟩ | nothing
    · rw [lacks.take] at failed
      cases failed
      exact lacks
    · rw [resolves.take] at failed
      cases failed
    · rw [nothing] at failed
      cases failed
  · exact Lacks.take

theorem take_eq_some_iff :
    ingredient.take start = .ok (some value) ↔ ingredient.Resolves start value := by
  constructor
  · intro found
    rcases take_cases start ingredient with ⟨fault, lacks⟩ | ⟨other, resolves⟩ | nothing
    · rw [lacks.take] at found
      cases found
    · rw [resolves.take] at found
      cases found
      exact resolves
    · rw [nothing] at found
      cases found
  · exact Resolves.take

/-- The fault of taking an ingredient. -/
def fault? (start : Json) (ingredient : Ingredient) : Option IngredientError :=
  match ingredient.take start with
  | .error fault => some fault
  | .ok _ => none

/-- What taking an ingredient adds to a bag. -/
def member? (start : Json) (ingredient : Ingredient) : Option (String × Json) :=
  match ingredient.take start with
  | .ok (some value) => some (ingredient.name, value)
  | _ => none

theorem fault?_eq_some_iff :
    ingredient.fault? start = some fault ↔ ingredient.Lacks start fault := by
  rw [← take_eq_error_iff, fault?]
  cases ingredient.take start <;> simp

theorem fault?_eq_none_iff : ingredient.fault? start = none ↔ ¬ ingredient.Missing start := by
  rw [missing_iff_exists_lacks, Option.eq_none_iff_forall_ne_some, not_exists]
  exact forall_congr' fun fault => not_congr fault?_eq_some_iff

theorem member?_eq_some_iff :
    ingredient.member? start = some (name, value) ↔
      ingredient.name = name ∧ ingredient.Resolves start value := by
  rw [← take_eq_some_iff, member?]
  split
  · rename_i found same
    rw [same, Option.some_inj, Prod.mk.injEq, Except.ok.injEq, Option.some_inj]
  · rename_i other
    constructor
    · intro none
      cases none
    · rintro ⟨-, found⟩
      exact absurd found (other value)

/-! ## All ingredients -/

/-- Ingredients are taken up to the first fault; without a fault all that are found are put into
the bag one after the other. -/
theorem takeAll_eq (taken : Bag) (ingredients : List Ingredient) :
    takeAll start taken ingredients =
      ((named ingredients).findSome? (fault? start)).elim
        (.ok (Bag.extend taken ((named ingredients).filterMap (member? start)))) .error := by
  induction ingredients generalizing taken with
  | nil => rfl
  | cons ingredient rest ih =>
      by_cases unnamed : ingredient.name = ""
      · rw [named, List.filter_cons_of_neg (by simp [unnamed]), ← named, takeAll,
          if_pos unnamed, ih]
      · rw [named, List.filter_cons_of_pos (by simp [unnamed]), ← named, takeAll,
          if_neg unnamed, List.findSome?_cons, List.filterMap_cons, fault?, member?]
        cases ingredient.take start with
        | error fault => rfl
        | ok found =>
            cases found with
            | none => exact ih taken
            | some value => exact ih (Bag.insert ingredient.name value taken)

/-- The fault is that of the first ingredient that is missing. -/
theorem takeAll_eq_error_iff :
    takeAll start taken ingredients = .error fault ↔
      ∃ front ingredient back, named ingredients = front ++ ingredient :: back ∧
        ingredient.Lacks start fault ∧ ∀ earlier ∈ front, ¬ earlier.Missing start := by
  have first : takeAll start taken ingredients = .error fault ↔
      (named ingredients).findSome? (fault? start) = some fault := by
    rw [takeAll_eq]
    cases (named ingredients).findSome? (fault? start) <;> simp
  simp only [first, List.findSome?_eq_some_iff, fault?_eq_some_iff, fault?_eq_none_iff]

/-- There is a fault exactly if an ingredient is missing. -/
theorem exists_takeAll_eq_error_iff :
    (∃ fault, takeAll start taken ingredients = .error fault) ↔
      ∃ ingredient ∈ named ingredients, ingredient.Missing start := by
  constructor
  · rintro ⟨fault, failed⟩
    obtain ⟨front, ingredient, back, split, lacks, -⟩ := takeAll_eq_error_iff.mp failed
    refine ⟨ingredient, ?_, missing_iff_exists_lacks.mpr ⟨fault, lacks⟩⟩
    rw [split]
    exact List.mem_append_right front List.mem_cons_self
  · rintro ⟨ingredient, ingredientMem, missing⟩
    cases first : (named ingredients).findSome? (fault? start) with
    | none =>
        have complete := List.findSome?_eq_none_iff.mp first ingredient ingredientMem
        exact absurd missing (fault?_eq_none_iff.mp complete)
    | some fault =>
        refine ⟨fault, ?_⟩
        rw [takeAll_eq, first]
        rfl

theorem takeAll_of_complete
    (complete : ∀ ingredient ∈ named ingredients, ¬ ingredient.Missing start) :
    takeAll start taken ingredients =
      .ok (Bag.extend taken ((named ingredients).filterMap (member? start))) := by
  have none : (named ingredients).findSome? (fault? start) = none :=
    List.findSome?_eq_none_iff.mpr fun ingredient ingredientMem =>
      fault?_eq_none_iff.mpr (complete ingredient ingredientMem)
  rw [takeAll_eq, none]
  rfl

/-- The members that ingredients add, put together: of those with one name the last that is found
counts. -/
theorem get?_ofList_filterMap_iff :
    (Bag.ofList (ingredients.filterMap (member? start))).get? name = some value ↔
      ∃ front ingredient back, ingredients = front ++ ingredient :: back ∧
        ingredient.name = name ∧ ingredient.Resolves start value ∧
        ∀ later ∈ back, later.name = name → ∀ other, ¬ later.Resolves start other := by
  rw [Bag.get?_ofList_eq_some_iff]
  constructor
  · rintro ⟨front, back, split, others⟩
    obtain ⟨before, behind, rfl, -, split⟩ := List.filterMap_eq_append_iff.mp split
    obtain ⟨passed, ingredient, after, rfl, -, found, rfl⟩ := List.filterMap_eq_cons_iff.mp split
    obtain ⟨same, resolves⟩ := member?_eq_some_iff.mp found
    refine ⟨before ++ passed, ingredient, after, by simp, same, resolves, ?_⟩
    intro later laterMem sameLater other resolvesLater
    have added := List.mem_filterMap.mpr
      ⟨later, laterMem, member?_eq_some_iff.mpr ⟨sameLater, resolvesLater⟩⟩
    exact others _ added rfl
  · rintro ⟨front, ingredient, back, rfl, same, resolves, others⟩
    refine ⟨front.filterMap (member? start), back.filterMap (member? start), ?_, ?_⟩
    · rw [List.filterMap_append, List.filterMap_cons_some
        (member?_eq_some_iff.mpr ⟨same, resolves⟩)]
    · rintro ⟨key, other⟩ added rfl
      obtain ⟨later, laterMem, found⟩ := List.mem_filterMap.mp added
      obtain ⟨sameLater, resolvesLater⟩ := member?_eq_some_iff.mp found
      exact others later laterMem sameLater other resolvesLater

/-- The names of a bag that is put together are those of the ingredients that are found. -/
theorem mem_keys_ofList_filterMap_iff :
    name ∈ (Bag.ofList (ingredients.filterMap (member? start))).map (·.1) ↔
      ∃ ingredient ∈ ingredients, ingredient.name = name ∧
        ∃ value, ingredient.Resolves start value := by
  rw [Bag.mem_keys_ofList_iff, List.mem_map]
  constructor
  · rintro ⟨⟨key, value⟩, added, rfl⟩
    obtain ⟨ingredient, ingredientMem, found⟩ := List.mem_filterMap.mp added
    obtain ⟨same, resolves⟩ := member?_eq_some_iff.mp found
    exact ⟨ingredient, ingredientMem, same, value, resolves⟩
  · rintro ⟨ingredient, ingredientMem, same, value, resolves⟩
    refine ⟨(name, value), List.mem_filterMap.mpr ⟨ingredient, ingredientMem, ?_⟩, rfl⟩
    exact member?_eq_some_iff.mpr ⟨same, resolves⟩

/-- Taking the ingredients of an event fails exactly if one that has a name is required and has
no path or one that leads nowhere, and the fault is that of the first of these.  Otherwise the
result holds the names of the ingredients whose paths lead to a value, null or not, each with the
value of the last of its name that does.  So one that may be missing never takes away what an
earlier one has found. -/
theorem extract_reads (payload : Bag) (item : Option Json) (ingredients : List Ingredient) :
    (∀ fault, extract payload item ingredients = .error fault ↔
      ∃ front ingredient back, named ingredients = front ++ ingredient :: back ∧
        ingredient.Lacks (event payload item) fault ∧
        ∀ earlier ∈ front, ¬ earlier.Missing (event payload item)) ∧
    ((∃ fault, extract payload item ingredients = .error fault) ↔
      ∃ ingredient ∈ named ingredients, ingredient.Missing (event payload item)) ∧
    ((∀ ingredient ∈ named ingredients, ¬ ingredient.Missing (event payload item)) →
      ∃ taken, extract payload item ingredients = .ok taken ∧ taken.Sorted ∧
        (∀ name, name ∈ taken.map (·.1) ↔ ∃ ingredient ∈ named ingredients,
          ingredient.name = name ∧ ∃ value, ingredient.Resolves (event payload item) value) ∧
        ∀ name value, taken.get? name = some value ↔
          ∃ front ingredient back, named ingredients = front ++ ingredient :: back ∧
            ingredient.name = name ∧ ingredient.Resolves (event payload item) value ∧
            ∀ later ∈ back, later.name = name →
              ∀ other, ¬ later.Resolves (event payload item) other) := by
  rw [extract, root_eq_event]
  refine ⟨fun fault => takeAll_eq_error_iff, exists_takeAll_eq_error_iff, fun complete => ?_⟩
  exact ⟨_, takeAll_of_complete complete, Bag.sorted_ofList _,
    fun name => mem_keys_ofList_filterMap_iff, fun name value => get?_ofList_filterMap_iff⟩

/-- An event with an empty member. -/
def letter : Bag := [("body", .object [("note", .null)]), ("sender", .string "ann")]

/-- Three ingredients of one name, of which the second is null and the third may be missing, one
without a name and one without a path. -/
def clippings : List Ingredient :=
  [⟨"text", "payload.sender", true, ""⟩, ⟨"text", "payload.body.note", true, ""⟩,
    ⟨"text", "item.5", false, ""⟩, ⟨"", "nowhere", true, ""⟩, ⟨"late", "", false, ""⟩]

/-- The null of the second ingredient is taken.  Of two more that are required and missing the
first decides. -/
theorem extract_reads_clippings :
    ((∀ ingredient ∈ named clippings, ¬ ingredient.Missing (event letter (some (.array [])))) ∧
      ∃ taken, extract letter (some (.array [])) clippings = .ok taken ∧
        taken.get? "text" = some .null) ∧
    extract letter none (clippings ++ [(optional "piece" "item.0").asRequired,
      (optional "other" "").asRequired]) = .error (.notFound "piece" "item.0") := by
  constructor
  · have complete : ∀ ingredient ∈ named clippings,
        ¬ ingredient.Missing (event letter (some (.array []))) := by decide
    obtain ⟨taken, result, -, -, found⟩ :=
      (extract_reads letter (some (.array [])) clippings).2.2 complete
    refine ⟨complete, taken, result, (found "text" .null).mpr ?_⟩
    have unresolved : ∀ later ∈ (named clippings).drop 2, later.name = "text" →
        (event letter (some (.array []))).lookup? later.path = none := by decide
    refine ⟨(named clippings).take 1, ⟨"text", "payload.body.note", true, ""⟩,
      (named clippings).drop 2, by decide, rfl, ⟨by decide, rfl⟩, ?_⟩
    intro later laterMem same other resolves
    rw [Resolves, unresolved later laterMem same] at resolves
    exact absurd resolves.2 (by simp)
  · apply ((extract_reads letter none _).1 _).mpr
    exact ⟨named clippings, (optional "piece" "item.0").asRequired,
      [(optional "other" "").asRequired], by decide, .value rfl (by decide) rfl, by decide⟩

end EventFlow.Ingredient
