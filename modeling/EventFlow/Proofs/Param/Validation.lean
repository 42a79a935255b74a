import EventFlow.Param
import EventFlow.Proofs.Json.Ordered
import Mathlib.Data.List.Induction

/-!
# What the check of parameters finds

A declaration is violated by parameters when what it asks for is missing or when the value that
is there fails its type, its choices or its pattern, in this order.  The check of all
declarations is one pass over them that may stop early: at the first whose pattern is asked for
and cannot be read.  Otherwise it finds what each declaration finds by itself, and of several
problems of one name the last.
-/

namespace EventFlow

/-- The value under a key, unless it is null. -/
def Bag.present? (bag : Bag) (key : String) : Option Json :=
  match bag.get? key with
  | some .null => none
  | found => found

namespace ParamType

/-- Is the value of the type? -/
def admits : ParamType → Json → Bool
  | .string, .string _ => true
  | .number, .number _ => true
  | .bool, .bool _ => true
  | .object, .object _ => true
  | .array, .array _ => true
  | .any, _ => true
  | _, _ => false

/-- What is wrong with a value of another type. -/
def mismatch? : ParamType → Option ParamProblem
  | .string => some .notString
  | .number => some .notNumber
  | .bool => some .notBool
  | .object => some .notObject
  | .array => some .notArray
  | .any => none

theorem admits_string_iff {value : Json} :
    ParamType.string.admits value = true ↔ ∃ s, value = .string s := by
  cases value <;> simp [admits]

end ParamType

namespace ParamSpec

/-! ## One declaration -/

/-- Is the text one of the choices, if there are any? -/
def Allows (spec : ParamSpec) (s : String) : Prop :=
  spec.choices = [] ∨ s ∈ spec.choices

/-- What is wrong with the parameter of a declaration: it is missing, or a value is there and
fails the type, or a text of the type is none of the choices, or it is one of them and fails the
pattern. -/
inductive Violates (reader : PatternReader) (params : Bag) (spec : ParamSpec) :
    ParamProblem → Prop where
  | missing (required : spec.required = true) (absent : params.present? spec.name = none) :
      Violates reader params spec .missing
  | mistyped {value : Json} {problem : ParamProblem}
      (present : params.present? spec.name = some value)
      (fails : spec.paramType.admits value = false)
      (said : spec.paramType.mismatch? = some problem) : Violates reader params spec problem
  | notChoice {s : String} (typed : spec.paramType = .string)
      (present : params.present? spec.name = some (.string s)) (fails : ¬ spec.Allows s) :
      Violates reader params spec (.notChoice spec.choices)
  | noMatch {s : String} {test : String → Bool} (typed : spec.paramType = .string)
      (present : params.present? spec.name = some (.string s)) (allowed : spec.Allows s)
      (asked : spec.pattern ≠ "") (read : reader spec.pattern = .ok test)
      (fails : test s = false) : Violates reader params spec .noMatch

/-- Something is wrong with the parameter of a declaration. -/
def Violated (reader : PatternReader) (params : Bag) (spec : ParamSpec) : Prop :=
  ∃ problem, spec.Violates reader params problem

/-- A text is there that the choices leave to the pattern, and the pattern cannot be read. -/
def HitsBadPattern (reader : PatternReader) (params : Bag) (spec : ParamSpec) : Prop :=
  spec.paramType = .string ∧
    ∃ s, params.present? spec.name = some (.string s) ∧ spec.Allows s ∧ spec.pattern ≠ "" ∧
      ∃ reason, reader spec.pattern = .error reason

variable {reader : PatternReader} {params : Bag} {spec : ParamSpec} {value : Json} {s : String}

theorem check_of_absent (absent : params.present? spec.name = none) :
    spec.check reader params = .ok (if spec.required then some .missing else none) := by
  unfold Bag.present? at absent
  unfold check
  split at absent
  · rename_i found
    rw [found]
  · rw [absent]

theorem check_of_present (present : params.present? spec.name = some value) :
    spec.check reader params = spec.checkValue reader value := by
  unfold Bag.present? at present
  unfold check
  split at present
  · contradiction
  · rename_i notNull
    rw [present]
    cases value with
    | null => exact absurd present notNull
    | _ => rfl

theorem checkValue_of_mismatch (fails : spec.paramType.admits value = false) :
    spec.checkValue reader value = .ok spec.paramType.mismatch? := by
  unfold checkValue
  cases type : spec.paramType <;> cases value <;>
    simp_all [ParamType.admits, ParamType.mismatch?]

theorem checkValue_of_string (typed : spec.paramType = .string) :
    spec.checkValue reader (.string s) = spec.checkString reader s := by
  simp [checkValue, typed]

theorem checkValue_of_admits (other : spec.paramType ≠ .string)
    (admitted : spec.paramType.admits value = true) : spec.checkValue reader value = .ok none := by
  unfold checkValue
  cases type : spec.paramType <;> cases value <;> simp_all [ParamType.admits]

theorem checkString_of_not_allows (fails : ¬ spec.Allows s) :
    spec.checkString reader s = .ok (some (.notChoice spec.choices)) := by
  rw [Allows, not_or] at fails
  rw [checkString, if_pos fails]

theorem Allows.not_excluded (allowed : spec.Allows s) :
    ¬ (spec.choices ≠ [] ∧ s ∉ spec.choices) := by
  rwa [← not_or, not_not]

section Allowed

variable (allowed : spec.Allows s)
include allowed

theorem checkString_of_unasked (unasked : spec.pattern = "") :
    spec.checkString reader s = .ok none := by
  rw [checkString, if_neg allowed.not_excluded, if_pos unasked]

theorem checkString_of_unread {reason : String} (asked : spec.pattern ≠ "")
    (unread : reader spec.pattern = .error reason) :
    spec.checkString reader s = .error (.invalidPattern spec.name reason) := by
  rw [checkString, if_neg allowed.not_excluded, if_neg asked, unread]

theorem checkString_of_read {test : String → Bool} (asked : spec.pattern ≠ "")
    (read : reader spec.pattern = .ok test) :
    spec.checkString reader s = .ok (if test s then none else some .noMatch) := by
  rw [checkString, if_neg allowed.not_excluded, if_neg asked, read]

end Allowed

/-- A pattern that is asked for and cannot be read is an error, for the reason that the reader
gives. -/
theorem HitsBadPattern.check (hits : spec.HitsBadPattern reader params) :
    ∃ reason, reader spec.pattern = .error reason ∧
      spec.check reader params = .error (.invalidPattern spec.name reason) := by
  rcases hits with ⟨typed, s, present, allowed, asked, reason, unread⟩
  refine ⟨reason, unread, ?_⟩
  rw [check_of_present present, checkValue_of_string typed,
    checkString_of_unread allowed asked unread]

/-- What is wrong is what the check finds. -/
theorem Violates.check {problem : ParamProblem} (violates : spec.Violates reader params problem) :
    spec.check reader params = .ok (some problem) := by
  cases violates with
  | missing required absent => rw [check_of_absent absent, if_pos required]
  | mistyped present fails said => rw [check_of_present present, checkValue_of_mismatch fails, said]
  | notChoice typed present fails =>
      rw [check_of_present present, checkValue_of_string typed, checkString_of_not_allows fails]
  | noMatch typed present allowed asked read fails =>
      rw [check_of_present present, checkValue_of_string typed,
        checkString_of_read allowed asked read]
      simp [fails]

/-- There is nothing else that the check finds. -/
theorem check_cases (reader : PatternReader) (params : Bag) (spec : ParamSpec) :
    spec.HitsBadPattern reader params ∨ spec.Violated reader params ∨
      spec.check reader params = .ok none := by
  cases present : params.present? spec.name with
  | none =>
      by_cases required : spec.required = true
      · exact .inr (.inl ⟨_, .missing required present⟩)
      · exact .inr (.inr (by rw [check_of_absent present, if_neg required]))
  | some value =>
      cases admitted : spec.paramType.admits value with
      | false =>
          cases said : spec.paramType.mismatch? with
          | some problem => exact .inr (.inl ⟨_, .mistyped present admitted said⟩)
          | none =>
              exact .inr (.inr (by rw [check_of_present present, checkValue_of_mismatch admitted,
                said]))
      | true =>
          by_cases typed : spec.paramType = .string
          · rw [typed] at admitted
            obtain ⟨s, rfl⟩ := ParamType.admits_string_iff.mp admitted
            by_cases allowed : spec.Allows s
            · have checked : spec.check reader params = spec.checkString reader s :=
                (check_of_present present).trans (checkValue_of_string typed)
              by_cases asked : spec.pattern = ""
              · exact .inr (.inr (checked.trans (checkString_of_unasked allowed asked)))
              cases read : reader spec.pattern with
              | error reason => exact .inl ⟨typed, s, present, allowed, asked, reason, read⟩
              | ok test =>
                  cases matched : test s with
                  | true =>
                      exact .inr (.inr (by simp [checked, checkString_of_read allowed asked read,
                        matched]))
                  | false =>
                      exact .inr (.inl ⟨_, .noMatch typed present allowed asked read matched⟩)
            · exact .inr (.inl ⟨_, .notChoice typed present allowed⟩)
          · exact .inr (.inr ((check_of_present present).trans
              (checkValue_of_admits typed admitted)))

theorem check_eq_problem_iff {problem : ParamProblem} :
    spec.check reader params = .ok (some problem) ↔ spec.Violates reader params problem := by
  constructor
  · intro found
    rcases check_cases reader params spec with hits | ⟨other, violates⟩ | nothing
    · obtain ⟨reason, _, refused⟩ := hits.check
      rw [refused] at found
      cases found
    · rw [violates.check] at found
      cases found
      exact violates
    · rw [nothing] at found
      cases found
  · exact Violates.check

/-- What the check of a declaration finds depends on its own parameter only. -/
theorem check_congr {others : Bag} (same : others.get? spec.name = params.get? spec.name) :
    spec.check reader others = spec.check reader params := by
  rw [check, check, same]

end ParamSpec

/-! ## Problems by name -/

namespace ValidationError

/-- Problems as the members of a bag. -/
def asBag (problems : List (String × String)) : Bag :=
  problems.map fun entry => (entry.1, .string entry.2)

/-- Recording a problem is putting a member into a bag. -/
theorem asBag_record (name problem : String) (problems : List (String × String)) :
    asBag (record name problem problems) = Bag.insert name (.string problem) (asBag problems) := by
  induction problems with
  | nil => rfl
  | cons entry rest ih =>
      rcases entry with ⟨n, p⟩
      change _ = Bag.insert name (.string problem) ((n, .string p) :: asBag rest)
      rw [record, Bag.insert]
      split
      · rfl
      · split
        · rfl
        · rw [← ih]
          rfl

theorem get?_asBag (problems : List (String × String)) (name : String) :
    (asBag problems).get? name = (problems.lookup name).map .string := by
  induction problems with
  | nil => rfl
  | cons entry rest ih =>
      rw [asBag, List.map_cons, Bag.get?, List.lookup_cons, List.lookup_cons]
      cases name == entry.1 with
      | true => rfl
      | false => exact ih

theorem string_injective : Function.Injective Json.string :=
  fun _ _ same => Json.string.inj same

theorem lookup_record (name problem : String) (problems : List (String × String)) :
    (record name problem problems).lookup name = some problem := by
  have found := Bag.get?_insert (asBag problems) name (.string problem)
  rw [← asBag_record, get?_asBag] at found
  exact Option.map_injective string_injective found

theorem lookup_record_of_ne {name other : String} (different : other ≠ name) (problem : String)
    (problems : List (String × String)) :
    (record name problem problems).lookup other = problems.lookup other := by
  have same := Bag.get?_insert_of_ne different (.string problem) (asBag problems)
  rw [← asBag_record, get?_asBag, get?_asBag] at same
  exact Option.map_injective string_injective same

/-- The problems are sorted by name, one for each. -/
def Sorted (problems : List (String × String)) : Prop :=
  (problems.map (·.1)).Pairwise (· < ·)

theorem sorted_asBag_iff {problems : List (String × String)} :
    (asBag problems).Sorted ↔ Sorted problems := by
  rw [Bag.Sorted, asBag, Sorted, List.pairwise_map, List.pairwise_map]

theorem Sorted.record {problems : List (String × String)} (sorted : Sorted problems)
    (name problem : String) : Sorted (record name problem problems) := by
  rw [← sorted_asBag_iff] at sorted ⊢
  rw [asBag_record]
  exact sorted.insert _ _

theorem Sorted.distinct {problems : List (String × String)} (sorted : Sorted problems) :
    (problems.map (·.1)).Nodup :=
  List.Pairwise.imp (fun less => String.ne_of_lt less) sorted

/-- Of sorted problems each is found under its name. -/
theorem Sorted.mem_iff {problems : List (String × String)} (sorted : Sorted problems)
    {name problem : String} : (name, problem) ∈ problems ↔ problems.lookup name = some problem :=
  (Bag.lookup_eq_some_iff_mem sorted.distinct).symm

/-- Sorted problems are known by what is found under each name. -/
theorem Sorted.ext {first second : List (String × String)} (sortedFirst : Sorted first)
    (sortedSecond : Sorted second) (same : ∀ name, first.lookup name = second.lookup name) :
    first = second := by
  have perm : first.Perm second := by
    rw [List.perm_ext_iff_of_nodup (sortedFirst.distinct.of_map _) (sortedSecond.distinct.of_map _)]
    rintro ⟨name, problem⟩
    rw [sortedFirst.mem_iff, sortedSecond.mem_iff, same]
  refine perm.eq_of_pairwise ?_ (List.pairwise_map.mp sortedFirst)
    (List.pairwise_map.mp sortedSecond)
  intro a b _ _ less greater
  exact absurd less (String.lt_asymm greater)

end ValidationError

namespace ParamSpec

/-! ## All declarations -/

/-- The declarations that have a name. -/
def named (specs : List ParamSpec) : List ParamSpec :=
  specs.filter fun spec => spec.name ≠ ""

/-- A problem of the last declaration of a name that is violated. -/
def LastProblem (reader : PatternReader) (params : Bag) (specs : List ParamSpec) (name : String)
    (problem : ParamProblem) : Prop :=
  ∃ front spec back, specs = front ++ spec :: back ∧ spec.name = name ∧
    spec.Violates reader params problem ∧
    ∀ later ∈ back, later.name = name → ¬ later.Violated reader params

/-- The problems found so far together with that of one more declaration. -/
def note (reader : PatternReader) (params : Bag) (problems : List (String × String))
    (spec : ParamSpec) : List (String × String) :=
  match spec.check reader params with
  | .ok (some problem) => ValidationError.record spec.name problem.message problems
  | _ => problems

/-- The problems of declarations. -/
def gather (reader : PatternReader) (params : Bag) (specs : List ParamSpec) :
    List (String × String) :=
  specs.foldl (note reader params) []

variable {reader : PatternReader} {params : Bag} {spec : ParamSpec} {specs : List ParamSpec}
  {problems : List (String × String)} {name message : String}

theorem note_of_violates {problem : ParamProblem} (violates : spec.Violates reader params problem) :
    note reader params problems spec =
      ValidationError.record spec.name problem.message problems := by
  rw [note, violates.check]

theorem note_of_not_violated (fine : ¬ spec.Violated reader params) :
    note reader params problems spec = problems := by
  unfold note
  split
  · rename_i problem found
    exact absurd ⟨problem, check_eq_problem_iff.mp found⟩ fine
  · rfl

@[simp]
theorem gather_concat (specs : List ParamSpec) (spec : ParamSpec) :
    gather reader params (specs ++ [spec]) = note reader params (gather reader params specs) spec :=
  List.foldl_concat _ _ _ _

theorem sorted_gather (reader : PatternReader) (params : Bag) (specs : List ParamSpec) :
    ValidationError.Sorted (gather reader params specs) := by
  induction specs using List.reverseRecOn with
  | nil => exact List.Pairwise.nil
  | append_singleton specs spec ih =>
      rw [gather_concat, note]
      split
      · exact ih.record _ _
      · exact ih

/-- The last problem of a name is that of the last declaration, if it is of the name and
violated, and otherwise that of the declarations before it. -/
theorem lastProblem_concat_iff {problem : ParamProblem} :
    LastProblem reader params (specs ++ [spec]) name problem ↔
      spec.name = name ∧ spec.Violates reader params problem ∨
        ¬ (spec.name = name ∧ spec.Violated reader params) ∧
          LastProblem reader params specs name problem := by
  constructor
  · rintro ⟨front, found, back, split, rfl, violates, last⟩
    rcases List.eq_nil_or_concat' back with rfl | ⟨between, final, rfl⟩
    · obtain ⟨rfl, same⟩ := List.append_inj' split rfl
      cases same
      exact .inl ⟨rfl, violates⟩
    · rw [← List.cons_append, ← List.append_assoc] at split
      obtain ⟨rfl, same⟩ := List.append_inj' split rfl
      cases same
      refine .inr ⟨fun ⟨sameName, violated⟩ => last spec (by simp) sameName violated, ?_⟩
      exact ⟨front, found, between, rfl, rfl, violates, fun later laterMem =>
        last later (List.mem_append_left _ laterMem)⟩
  · rintro (⟨rfl, violates⟩ | ⟨notLast, front, found, back, rfl, rfl, violates, last⟩)
    · exact ⟨specs, spec, [], rfl, rfl, violates, by simp⟩
    · refine ⟨front, found, back ++ [spec], by simp, rfl, violates,
        fun later laterMem sameName => ?_⟩
      rcases List.mem_append.mp laterMem with laterMem | laterMem
      · exact last later laterMem sameName
      · cases List.mem_singleton.mp laterMem
        exact fun violated => notLast ⟨sameName, violated⟩

/-- Under each name the last problem of the name is found. -/
theorem lookup_gather_iff :
    (gather reader params specs).lookup name = some message ↔
      ∃ problem, LastProblem reader params specs name problem ∧ message = problem.message := by
  induction specs using List.reverseRecOn with
  | nil => simp [gather, LastProblem]
  | append_singleton specs spec ih =>
      rw [gather_concat]
      simp only [lastProblem_concat_iff]
      by_cases violated : spec.Violated reader params
      · obtain ⟨problem, violates⟩ := violated
        have only {other : ParamProblem} (also : spec.Violates reader params other) :
            other = problem := by
          have found := also.check
          rw [violates.check] at found
          cases found
          rfl
        rw [note_of_violates violates]
        by_cases here : spec.name = name
        · subst here
          rw [ValidationError.lookup_record]
          constructor
          · rintro ⟨⟩
            exact ⟨problem, .inl ⟨rfl, violates⟩, rfl⟩
          · rintro ⟨other, ⟨-, also⟩ | ⟨notLast, -⟩, rfl⟩
            · rw [only also]
            · exact absurd ⟨rfl, problem, violates⟩ notLast
        · rw [ValidationError.lookup_record_of_ne (Ne.symm here), ih]
          simp [here]
      · have fine {problem : ParamProblem} : ¬ spec.Violates reader params problem :=
          fun violates => violated ⟨problem, violates⟩
        rw [note_of_not_violated violated, ih]
        simp [violated, fine]

/-- If a declaration of a name is violated, one of them is the last. -/
theorem exists_lastProblem_iff :
    (∃ problem, LastProblem reader params specs name problem) ↔
      ∃ spec ∈ specs, spec.name = name ∧ spec.Violated reader params := by
  constructor
  · rintro ⟨problem, front, spec, back, rfl, rfl, violates, -⟩
    exact ⟨spec, by simp, rfl, problem, violates⟩
  · intro violated
    induction specs with
    | nil => simp at violated
    | cons first rest ih =>
        by_cases later : ∃ spec ∈ rest, spec.name = name ∧ spec.Violated reader params
        · obtain ⟨problem, front, spec, back, rfl, last⟩ := ih later
          exact ⟨problem, first :: front, spec, back, rfl, last⟩
        · obtain ⟨spec, specMem, named, problem, violates⟩ := violated
          rcases List.mem_cons.mp specMem with rfl | specMem
          · exact ⟨problem, [], spec, rest, rfl, named, violates, fun other otherMem same broken =>
              later ⟨other, otherMem, same, broken⟩⟩
          · exact absurd ⟨spec, specMem, named, problem, violates⟩ later

/-- Nothing is found if nothing is wrong. -/
theorem gather_eq_nil_iff :
    gather reader params specs = [] ↔ ∀ spec ∈ specs, ¬ spec.Violated reader params := by
  constructor
  · intro nothing spec specMem violated
    obtain ⟨problem, last⟩ := exists_lastProblem_iff.mpr ⟨spec, specMem, rfl, violated⟩
    have found := lookup_gather_iff.mpr ⟨problem, last, rfl⟩
    rw [nothing] at found
    cases found
  · intro fine
    cases found : gather reader params specs with
    | nil => rfl
    | cons entry rest =>
        have here : (gather reader params specs).lookup entry.1 = some entry.2 := by
          rw [found]
          exact List.lookup_cons_self
        obtain ⟨problem, last, -⟩ := lookup_gather_iff.mp here
        obtain ⟨spec, specMem, -, violated⟩ := exists_lastProblem_iff.mp ⟨problem, last⟩
        exact absurd violated (fine spec specMem)

/-! ## The pass -/

/-- Declarations without a name are passed over. -/
theorem checkAll_named (problems : List (String × String)) (specs : List ParamSpec) :
    checkAll reader params problems (named specs) = checkAll reader params problems specs := by
  induction specs generalizing problems with
  | nil => rfl
  | cons spec rest ih =>
      by_cases unnamed : spec.name = ""
      · rw [named, List.filter_cons_of_neg (by simp [unnamed]), ← named, ih, checkAll,
          if_pos unnamed]
      · rw [named, List.filter_cons_of_pos (by simp [unnamed]), ← named, checkAll, checkAll]
        simp only [if_neg unnamed, ih]

theorem checkAll_cons_of_readable (unhit : ¬ spec.HitsBadPattern reader params)
    (hasName : spec.name ≠ "") :
    checkAll reader params problems (spec :: specs) =
      checkAll reader params (note reader params problems spec) specs := by
  rw [checkAll, if_neg hasName, note]
  rcases check_cases reader params spec with hits | ⟨problem, violates⟩ | nothing
  · exact absurd hits unhit
  · rw [violates.check]
  · rw [nothing]

theorem ne_of_mem_named (specMem : spec ∈ named specs) : spec.name ≠ "" := by
  simpa using (List.mem_filter.mp specMem).2

/-- The pass ends at the first pattern that is asked for and cannot be read. -/
theorem checkAll_of_hits {front back : List ParamSpec}
    (hasName : ∀ other ∈ front ++ [spec], other.name ≠ "")
    (unhit : ∀ other ∈ front, ¬ other.HitsBadPattern reader params)
    (hits : spec.HitsBadPattern reader params) :
    ∃ reason, reader spec.pattern = .error reason ∧
      checkAll reader params problems (front ++ spec :: back) =
        .error (.invalidPattern spec.name reason) := by
  induction front generalizing problems with
  | nil =>
      obtain ⟨reason, unread, refused⟩ := hits.check
      exact ⟨reason, unread, by
        rw [List.nil_append, checkAll, if_neg (hasName spec (by simp)), refused]⟩
  | cons first front ih =>
      rw [List.cons_append, checkAll_cons_of_readable (unhit first List.mem_cons_self)
        (hasName first (by simp))]
      exact ih (fun other otherMem => hasName other (List.mem_cons_of_mem _ otherMem))
        fun other otherMem => unhit other (List.mem_cons_of_mem _ otherMem)

/-- Otherwise it gathers the problems of all declarations. -/
theorem checkAll_of_readable (hasName : ∀ spec ∈ specs, spec.name ≠ "")
    (unhit : ∀ spec ∈ specs, ¬ spec.HitsBadPattern reader params) :
    checkAll reader params problems specs = .ok (specs.foldl (note reader params) problems) := by
  induction specs generalizing problems with
  | nil => rfl
  | cons spec rest ih =>
      rw [checkAll_cons_of_readable (unhit spec List.mem_cons_self)
        (hasName spec List.mem_cons_self)]
      exact ih (fun other otherMem => hasName other (List.mem_cons_of_mem _ otherMem))
        fun other otherMem => unhit other (List.mem_cons_of_mem _ otherMem)

theorem validateWith_named (specs : List ParamSpec) :
    validateWith reader params (named specs) = validateWith reader params specs := by
  rw [validateWith, validateWith, checkAll_named]

theorem validateWith_of_hits {front back : List ParamSpec}
    (split : named specs = front ++ spec :: back)
    (unhit : ∀ other ∈ front, ¬ other.HitsBadPattern reader params)
    (hits : spec.HitsBadPattern reader params) :
    ∃ reason, reader spec.pattern = .error reason ∧
      validateWith reader params specs = .error (.invalidPattern spec.name reason) := by
  have hasName : ∀ other ∈ front ++ [spec], other.name ≠ "" := by
    intro other otherMem
    have namedMem : other ∈ named specs := by
      rw [split, List.append_cons]
      exact List.mem_append_left _ otherMem
    exact ne_of_mem_named namedMem
  obtain ⟨reason, unread, refused⟩ := checkAll_of_hits hasName unhit hits
  exact ⟨reason, unread, by rw [← validateWith_named, validateWith, split, refused]⟩

theorem validateWith_of_readable
    (unhit : ∀ spec ∈ named specs, ¬ spec.HitsBadPattern reader params) :
    validateWith reader params specs =
      if gather reader params (named specs) = [] then .ok ()
      else .error (.validation ⟨gather reader params (named specs)⟩) := by
  rw [← validateWith_named, validateWith,
    checkAll_of_readable (fun _ => ne_of_mem_named) unhit, ← gather]
  cases gather reader params (named specs) <;> simp

/-- Only parameters that are declared matter. -/
theorem checkAll_congr {others : Bag}
    (same : ∀ spec ∈ specs, others.get? spec.name = params.get? spec.name) :
    checkAll reader others problems specs = checkAll reader params problems specs := by
  induction specs generalizing problems with
  | nil => rfl
  | cons spec rest ih =>
      rw [checkAll, checkAll, check_congr (same spec List.mem_cons_self)]
      simp only [ih fun other otherMem => same other (List.mem_cons_of_mem _ otherMem)]

/-- Where names are different, the last problem of a name is that of the declaration. -/
theorem lastProblem_iff_of_distinct {problem : ParamProblem}
    (distinct : (specs.map (·.name)).Nodup) :
    LastProblem reader params specs name problem ↔
      ∃ spec ∈ specs, spec.name = name ∧ spec.Violates reader params problem := by
  constructor
  · rintro ⟨front, spec, back, rfl, rfl, violates, -⟩
    exact ⟨spec, by simp, rfl, violates⟩
  · rintro ⟨spec, specMem, rfl, violates⟩
    obtain ⟨front, back, rfl⟩ := List.append_of_mem specMem
    refine ⟨front, spec, back, rfl, rfl, violates, fun later laterMem same => ?_⟩
    rw [List.map_append, List.map_cons] at distinct
    have apart := (List.nodup_cons.mp (List.nodup_append.mp distinct).2.1).1
    exact absurd (List.mem_map.mpr ⟨later, laterMem, same⟩) apart

/-- Where names are different, the order of declarations does not matter. -/
theorem gather_of_perm {others : List ParamSpec} (perm : others.Perm specs)
    (distinct : (specs.map (·.name)).Nodup) :
    gather reader params others = gather reader params specs := by
  apply (sorted_gather reader params others).ext (sorted_gather reader params specs)
  intro name
  apply Option.ext
  intro message
  have distinctOthers : (others.map (·.name)).Nodup := (perm.map _).nodup_iff.mpr distinct
  simp only [lookup_gather_iff, lastProblem_iff_of_distinct distinct,
    lastProblem_iff_of_distinct distinctOthers, perm.mem_iff]

/-- If a pattern that is asked for cannot be read, there is a first one. -/
theorem exists_first_hit (hit : ∃ spec ∈ specs, spec.HitsBadPattern reader params) :
    ∃ front spec back, specs = front ++ spec :: back ∧ spec.HitsBadPattern reader params ∧
      ∀ other ∈ front, ¬ other.HitsBadPattern reader params := by
  induction specs with
  | nil => simp at hit
  | cons first rest ih =>
      by_cases here : first.HitsBadPattern reader params
      · exact ⟨[], first, rest, rfl, here, by simp⟩
      · have later : ∃ spec ∈ rest, spec.HitsBadPattern reader params := by simpa [here] using hit
        obtain ⟨front, spec, back, rfl, hits, unhit⟩ := ih later
        exact ⟨first :: front, spec, back, rfl, hits, List.forall_mem_cons.mpr ⟨here, unhit⟩⟩

/-- A result that is no error of a pattern comes from patterns that can be read as far as they
are asked for. -/
theorem readable_of_validateWith
    (other : ∀ name reason,
      validateWith reader params specs ≠ .error (.invalidPattern name reason)) :
    ∀ spec ∈ named specs, ¬ spec.HitsBadPattern reader params := by
  intro spec specMem hits
  obtain ⟨front, first, back, split, hits, unhit⟩ := exists_first_hit ⟨spec, specMem, hits⟩
  obtain ⟨reason, _, refused⟩ := validateWith_of_hits split unhit hits
  exact other first.name reason refused

/-- The check of parameters is sound and complete, whatever patterns can be read and match.
The first declaration whose pattern is asked for and cannot be read decides, for the reason that
the reader gives, whatever else is wrong.  If there is none, parameters pass exactly if they
violate no declaration, and otherwise the names in the error are those of the violated
declarations, each with the problem of the last of its name.  Declarations without a name and
parameters without a declaration do not matter, nor does the order of declarations with different
names, unless a pattern decides. -/
theorem validateWith_judges (reader : PatternReader) (params : Bag) (specs : List ParamSpec) :
    ((∃ spec ∈ named specs, spec.HitsBadPattern reader params) →
      ∃ front spec back, named specs = front ++ spec :: back ∧
        spec.HitsBadPattern reader params ∧
        (∀ other ∈ front, ¬ other.HitsBadPattern reader params) ∧
        ∃ reason, reader spec.pattern = .error reason ∧
          validateWith reader params specs = .error (.invalidPattern spec.name reason)) ∧
    ((∀ spec ∈ named specs, ¬ spec.HitsBadPattern reader params) →
      (validateWith reader params specs = .ok () ↔
        ∀ spec ∈ named specs, ¬ spec.Violated reader params) ∧
      ((∃ spec ∈ named specs, spec.Violated reader params) →
        ∃ e : ValidationError, validateWith reader params specs = .error (.validation e) ∧
          ValidationError.Sorted e.fields ∧
          (∀ name, name ∈ e.fields.map (·.1) ↔
            ∃ spec ∈ named specs, spec.name = name ∧ spec.Violated reader params) ∧
          ∀ name message, e.field? name = some message ↔
            ∃ problem, LastProblem reader params (named specs) name problem ∧
              message = problem.message)) ∧
    (∀ (otherSpecs : List ParamSpec) (otherParams : Bag), named otherSpecs = named specs →
      (∀ spec ∈ named specs, otherParams.get? spec.name = params.get? spec.name) →
      validateWith reader otherParams otherSpecs = validateWith reader params specs) ∧
    ∀ otherSpecs : List ParamSpec, otherSpecs.Perm specs →
      ((named specs).map (·.name)).Nodup →
      (∀ name reason, validateWith reader params specs ≠ .error (.invalidPattern name reason)) →
      validateWith reader params otherSpecs = validateWith reader params specs := by
  refine ⟨fun hit => ?_, fun unhit => ?_, fun otherSpecs otherParams sameSpecs sameParams => ?_,
    fun otherSpecs perm distinct notPattern => ?_⟩
  · obtain ⟨front, spec, back, split, hits, unhit⟩ := exists_first_hit hit
    exact ⟨front, spec, back, split, hits, unhit, validateWith_of_hits split unhit hits⟩
  · rw [validateWith_of_readable unhit, ← gather_eq_nil_iff]
    refine ⟨by simp, fun violated => ?_⟩
    have found : gather reader params (named specs) ≠ [] := by
      rw [Ne, gather_eq_nil_iff]
      simpa using violated
    rw [if_neg found]
    refine ⟨_, rfl, sorted_gather _ _ _, fun name => ?_, fun name message => lookup_gather_iff⟩
    rw [Bag.mem_keys_iff, ← exists_lastProblem_iff]
    simp only [lookup_gather_iff]
    exact ⟨fun ⟨_, problem, last, _⟩ => ⟨problem, last⟩,
      fun ⟨problem, last⟩ => ⟨_, problem, last, rfl⟩⟩
  · rw [← validateWith_named, ← validateWith_named specs, sameSpecs, validateWith, validateWith,
      checkAll_congr sameParams]
  · have unhit := readable_of_validateWith notPattern
    have permNamed : (named otherSpecs).Perm (named specs) := perm.filter _
    have unhitOthers : ∀ spec ∈ named otherSpecs, ¬ spec.HitsBadPattern reader params :=
      fun spec specMem => unhit spec (permNamed.mem_iff.mp specMem)
    rw [validateWith_of_readable unhit, validateWith_of_readable unhitOthers,
      gather_of_perm permNamed distinct]

/-- A reader that can read all patterns but an open bracket; a text matches those that it is
equal to. -/
def bracketReader : PatternReader := fun pattern =>
  if pattern = "(" then .error "unclosed group" else .ok (· == pattern)

/-- Declarations that name a parameter twice, and one without a name. -/
def declaredTwice : List ParamSpec :=
  [⟨"code", .string, false, "", ["ok", "no"], "ok"⟩, ⟨"", .any, true, "", [], ""⟩,
    ⟨"mode", .string, true, "", [], ""⟩, ⟨"code", .number, false, "", [], ""⟩]

/-- A text that is asked to match and is missing where it is required. -/
def refusedBag : Bag := [("code", .string "no"), ("mode", .null)]

/-- A text that does not match and is no number is reported as no number; and nothing of this
is reported when the pattern of one more declaration cannot be read.  A parameter more, a
declaration without a name less and another order change nothing. -/
theorem validateWith_judges_declaredTwice :
    ((∀ spec ∈ named declaredTwice, ¬ spec.HitsBadPattern bracketReader refusedBag) ∧
      ∃ e : ValidationError,
        validateWith bracketReader refusedBag declaredTwice = .error (.validation e) ∧
          e.field? "code" = some "must be a number") ∧
    (∃ (spec : ParamSpec) (reason : String), spec.HitsBadPattern bracketReader refusedBag ∧
      bracketReader spec.pattern = .error reason ∧
      validateWith bracketReader refusedBag
        (declaredTwice ++ [⟨"code", .string, false, "", [], "("⟩]) =
          .error (.invalidPattern spec.name reason)) ∧
    validateWith bracketReader (("also", .bool true) :: refusedBag) (named declaredTwice) =
      validateWith bracketReader refusedBag declaredTwice ∧
    validateWith bracketReader refusedBag (declaredTwice.take 3).reverse =
      validateWith bracketReader refusedBag (declaredTwice.take 3) := by
  have present : refusedBag.present? "code" = some (.string "no") := rfl
  have number : (⟨"code", .number, false, "", [], ""⟩ : ParamSpec).Violates bracketReader refusedBag
      .notNumber := .mistyped present rfl rfl
  have broken : (⟨"code", .string, false, "", [], "("⟩ : ParamSpec).HitsBadPattern bracketReader
      refusedBag := ⟨rfl, "no", present, .inl rfl, by decide, "unclosed group", rfl⟩
  have unhit : ∀ spec ∈ named declaredTwice,
      ¬ spec.HitsBadPattern bracketReader refusedBag := by
    have result : validateWith bracketReader refusedBag declaredTwice = .error (.validation
        ⟨[("code", "must be a number"), ("mode", "is required")]⟩) := by decide +kernel
    apply readable_of_validateWith
    intro name reason
    rw [result]
    simp
  refine ⟨⟨unhit, ?_⟩, ?_, ?_, ?_⟩
  · obtain ⟨e, refused, -, -, found⟩ := ((validateWith_judges bracketReader refusedBag
      declaredTwice).2.1 unhit).2 ⟨_, by decide, _, number⟩
    have last : LastProblem bracketReader refusedBag (named declaredTwice) "code" .notNumber :=
      ⟨(named declaredTwice).take 2, _, [], by decide, rfl, number, by simp⟩
    exact ⟨e, refused, (found _ _).mpr ⟨_, last, rfl⟩⟩
  · obtain ⟨_, spec, _, _, hits, _, reason, unread, decided⟩ :=
      (validateWith_judges bracketReader refusedBag
        (declaredTwice ++ [⟨"code", .string, false, "", [], "("⟩])).1 ⟨_, by decide, broken⟩
    exact ⟨spec, reason, hits, unread, decided⟩
  · have undeclared : ∀ spec ∈ named declaredTwice, spec.name ≠ "also" := by decide
    exact (validateWith_judges bracketReader refusedBag declaredTwice).2.2.1 _ _ (by decide)
      fun spec specMem => Bag.get?_cons_of_ne (undeclared spec specMem) _ _
  · have result : validateWith bracketReader refusedBag (declaredTwice.take 3) = .error (.validation
        ⟨[("code", "does not match pattern"), ("mode", "is required")]⟩) := by decide +kernel
    exact (validateWith_judges bracketReader refusedBag (declaredTwice.take 3)).2.2.2 _
      (List.reverse_perm _) (by decide) (by simp [result])

end ParamSpec

end EventFlow
