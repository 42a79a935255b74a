import EventFlow.Id
import EventFlow.Proofs.Bag
import EventFlow.Proofs.Text.Decimal
import Mathlib.Algebra.Group.Int.Defs

/-!
# Reading row ids

A row id is read off the decimal text of a signed 64-bit integer between blanks, and off nothing
else, whatever the kind of row.  So the text in which an id is shown is read back, and a loosely
typed parameter means the same row whether it holds the id as a number or as a text.
-/

namespace EventFlow

namespace Text

variable {left core right : List Char}

/-! ## Blanks at both ends -/

theorem dropBlanks_append (blank : ∀ c ∈ left, isBlank c = true) (rest : List Char) :
    dropBlanks (left ++ rest) = dropBlanks rest :=
  List.dropWhile_append_of_pos blank

theorem dropBlanks_of_not_isBlank (filled : ∀ c ∈ core, isBlank c = false) (nonempty : core ≠ [])
    (rest : List Char) : dropBlanks (core ++ rest) = core ++ rest := by
  cases core with
  | nil => exact absurd rfl nonempty
  | cons c core =>
      have first : ¬ isBlank c = true := by simp [filled c List.mem_cons_self]
      rw [dropBlanks, List.cons_append, List.dropWhile_cons_of_neg first]

/-- The blanks around a text without blanks are removed. -/
theorem trimChars_padded (blankLeft : ∀ c ∈ left, isBlank c = true)
    (blankRight : ∀ c ∈ right, isBlank c = true) (filled : ∀ c ∈ core, isBlank c = false)
    (nonempty : core ≠ []) : trimChars (left ++ core ++ right) = core := by
  have blankReversed : ∀ c ∈ right.reverse, isBlank c = true :=
    fun c charMem => blankRight c (List.mem_reverse.mp charMem)
  have filledReversed : ∀ c ∈ core.reverse, isBlank c = false :=
    fun c charMem => filled c (List.mem_reverse.mp charMem)
  have kept : dropBlanks core.reverse = core.reverse := by
    simpa using
      dropBlanks_of_not_isBlank filledReversed (mt List.reverse_eq_nil_iff.mp nonempty) []
  rw [trimChars, List.append_assoc, dropBlanks_append blankLeft,
    dropBlanks_of_not_isBlank filled nonempty, List.reverse_append, dropBlanks_append blankReversed,
    kept, List.reverse_reverse]

theorem takeWhile_append_dropBlanks (cs : List Char) :
    cs.takeWhile isBlank ++ dropBlanks cs = cs :=
  List.takeWhile_append_dropWhile

/-- What is left when the blanks at both ends are removed stands between blanks. -/
theorem exists_padding (cs : List Char) :
    ∃ left right, cs = left ++ trimChars cs ++ right ∧ (∀ c ∈ left, isBlank c = true) ∧
      ∀ c ∈ right, isBlank c = true := by
  refine ⟨cs.takeWhile isBlank, ((dropBlanks cs).reverse.takeWhile isBlank).reverse, ?_, ?_, ?_⟩
  · have behind : trimChars cs ++ ((dropBlanks cs).reverse.takeWhile isBlank).reverse =
        dropBlanks cs := by
      rw [trimChars, ← List.reverse_append, takeWhile_append_dropBlanks, List.reverse_reverse]
    rw [List.append_assoc, behind, takeWhile_append_dropBlanks]
  · exact fun c charMem => List.mem_takeWhile_imp charMem
  · exact fun c charMem => List.mem_takeWhile_imp (List.mem_reverse.mp charMem)

/-- The text of an integer between blanks. -/
def WritesPadded (s : String) (n : Int) : Prop :=
  ∃ left core right : String, s = left ++ core ++ right ∧ isAllBlank left = true ∧
    isAllBlank right = true ∧ WritesInteger core.toList n

theorem isAllBlank_iff {s : String} : isAllBlank s = true ↔ ∀ c ∈ s.toList, isBlank c = true := by
  rw [isAllBlank, List.all_eq_true]

/-- The text of an integer is what is left of it between blanks. -/
theorem writesInteger_trimChars_iff {s : String} {n : Int} :
    WritesInteger (trimChars s.toList) n ↔ WritesPadded s n := by
  constructor
  · intro written
    obtain ⟨left, right, whole, blankLeft, blankRight⟩ := exists_padding s.toList
    refine ⟨.ofList left, .ofList (trimChars s.toList), .ofList right, ?_, ?_, ?_, ?_⟩
    · rw [← String.toList_inj, String.toList_append, String.toList_append, String.toList_ofList,
        String.toList_ofList, String.toList_ofList]
      exact whole
    · rw [isAllBlank_iff, String.toList_ofList]
      exact blankLeft
    · rw [isAllBlank_iff, String.toList_ofList]
      exact blankRight
    · rwa [String.toList_ofList]
  · rintro ⟨left, core, right, rfl, blankLeft, blankRight, written⟩
    rw [String.toList_append, String.toList_append, trimChars_padded
      (isAllBlank_iff.mp blankLeft) (isAllBlank_iff.mp blankRight) written.not_isBlank
      written.ne_nil]
    exact written

/-! ## Signed 64-bit integers -/

theorem signed64_eq : Range.signed64 = ⟨-2 ^ 63, 2 ^ 63 - 1⟩ := by decide

theorem signed64_contains {n : Int} (least : -2 ^ 63 ≤ n) (greatest : n ≤ 2 ^ 63 - 1) :
    Range.signed64.contains n = true := by
  rw [signed64_eq, Range.contains, Bool.and_eq_true, decide_eq_true_eq, decide_eq_true_eq]
  exact ⟨least, greatest⟩

/-- The reader of signed 64-bit integers accepts the texts between blanks that write one. -/
theorem readInteger_trimChars_eq_ok_iff {s : String} {n : Int} :
    readInteger Range.signed64 (trimChars s.toList) = .ok n ↔
      WritesPadded s n ∧ -2 ^ 63 ≤ n ∧ n ≤ 2 ^ 63 - 1 := by
  rw [signed64_eq, readInteger_eq_ok_iff, writesInteger_trimChars_iff]

/-- A text between blanks stands for the integer that it writes. -/
theorem looseInteger?_of_writesPadded {s : String} {n : Int} (written : WritesPadded s n)
    (least : -2 ^ 63 ≤ n) (greatest : n ≤ 2 ^ 63 - 1) : looseInteger? s = some n := by
  have read := readInteger_trimChars_eq_ok_iff.mpr ⟨written, least, greatest⟩
  rw [looseInteger?, readInteger?, read]
  rfl

end Text

open EventFlow.Text

namespace RowId

variable {entity : Entity} {s : String}

theorem parse_eq_ok_iff {id : RowId entity} :
    parse entity s = .ok id ↔
      WritesPadded s id.value ∧ -2 ^ 63 ≤ id.value ∧ id.value ≤ 2 ^ 63 - 1 := by
  rw [← readInteger_trimChars_eq_ok_iff, parse]
  cases readInteger Range.signed64 (trimChars s.toList) with
  | error fault => simp
  | ok n =>
      rw [Except.ok.injEq, Except.ok.injEq]
      constructor
      · rintro rfl
        rfl
      · rintro rfl
        rfl

/-- What is refused is refused as the id of its kind. -/
theorem entity_of_parse {e : RowIdError} (refused : parse entity s = .error e) :
    e.entity = entity := by
  rw [parse] at refused
  cases read : readInteger Range.signed64 (trimChars s.toList) with
  | ok n =>
      rw [read] at refused
      cases refused
  | error fault =>
      rw [read] at refused
      cases refused
      rfl

/-- The text of an id between blanks writes its number. -/
theorem writesPadded_display {left right : String} (blankLeft : isAllBlank left = true)
    (blankRight : isAllBlank right = true) (id : RowId entity) :
    WritesPadded (left ++ id.display ++ right) id.value :=
  ⟨left, id.display, right, rfl, blankLeft, blankRight, writesInteger_toString id.value⟩

/-- A row id, of whatever kind, is read off the text of a signed 64-bit integer between blanks:
digits, at least one, behind an optional sign.  Any other text is refused as an id of that kind.
The text in which an id is shown is read as this id, with blanks around it or without, and under
a key of a bag this text and the number itself are the same integer. -/
theorem parse_readsDecimal (entity : Entity) :
    (∀ (s : String) (id : RowId entity), parse entity s = .ok id ↔
      WritesPadded s id.value ∧ -2 ^ 63 ≤ id.value ∧ id.value ≤ 2 ^ 63 - 1) ∧
    (∀ s : String, (¬ ∃ n, WritesPadded s n ∧ -2 ^ 63 ≤ n ∧ n ≤ 2 ^ 63 - 1) →
      ∃ e, parse entity s = .error e ∧ e.entity = entity ∧
        e.message = "failed to parse " ++ entity.idName ++ ": " ++ e.reason) ∧
    ∀ n : Int, -2 ^ 63 ≤ n → n ≤ 2 ^ 63 - 1 →
      ∀ left right : String, isAllBlank left = true → isAllBlank right = true →
        parse entity (left ++ (⟨n⟩ : RowId entity).display ++ right) = .ok ⟨n⟩ ∧
        ∀ (bag : Bag) (key : String),
          bag.get? key = some (.string (left ++ (⟨n⟩ : RowId entity).display ++ right)) ∨
            bag.get? key = some (.ofInt n) →
          bag.getInteger? key = some n := by
  refine ⟨fun s id => parse_eq_ok_iff, fun s unwritten => ?_,
    fun n least greatest left right blankLeft blankRight => ⟨?_, fun bag key held => ?_⟩⟩
  · cases read : parse entity s with
    | ok id => exact absurd ⟨id.value, parse_eq_ok_iff.mp read⟩ unwritten
    | error e =>
        have kind := entity_of_parse read
        refine ⟨e, rfl, kind, ?_⟩
        rw [← kind]
        rfl
  · exact parse_eq_ok_iff.mpr ⟨writesPadded_display blankLeft blankRight ⟨n⟩, least, greatest⟩
  · rcases held with held | held
    · rw [Bag.getInteger?, held]
      exact looseInteger?_of_writesPadded (writesPadded_display blankLeft blankRight ⟨n⟩) least
        greatest
    · exact Bag.getInteger?_of_get? (signed64_contains least greatest) held

/-- The least id is read back with blanks of several kinds around it, and it is what a parameter
holds in its text or as a number.  The number behind the greatest is no id. -/
theorem parse_readsDecimal_least :
    (isAllBlank "\t" = true ∧ isAllBlank " \u3000" = true ∧
      parse .flow "\t-9223372036854775808 \u3000" = .ok ⟨-2 ^ 63⟩ ∧
      Bag.getInteger? [("flow", .string "\t-9223372036854775808 \u3000")] "flow" =
        some (-2 ^ 63) ∧
      Bag.getInteger? [("flow", .ofInt (-2 ^ 63))] "flow" = some (-2 ^ 63)) ∧
    ¬ (∃ n, WritesPadded "9223372036854775808" n ∧ -2 ^ 63 ≤ n ∧ n ≤ 2 ^ 63 - 1) ∧
    ∃ e, parse .queueJob "9223372036854775808" = .error e ∧ e.entity = .queueJob := by
  have shown : "\t" ++ (⟨-2 ^ 63⟩ : FlowId).display ++ " \u3000" =
      "\t-9223372036854775808 \u3000" := by decide
  obtain ⟨read, held⟩ := (parse_readsDecimal .flow).2.2 (-2 ^ 63) (by decide) (by decide)
    "\t" " \u3000" (by decide) (by decide)
  rw [shown] at read held
  refine ⟨⟨by decide, by decide, read, held _ "flow" (.inl rfl), held _ "flow" (.inr rfl)⟩, ?_⟩
  have unwritten : ¬ ∃ n, WritesPadded "9223372036854775808" n ∧ -2 ^ 63 ≤ n ∧ n ≤ 2 ^ 63 - 1 := by
    rintro ⟨n, written⟩
    have refused : parse .queueJob "9223372036854775808" = .error ⟨.queueJob, .tooLarge⟩ := by
      decide
    rw [((parse_readsDecimal .queueJob).1 _ ⟨n⟩).mpr written] at refused
    cases refused
  obtain ⟨e, refused, kind, -⟩ := (parse_readsDecimal .queueJob).2.1 _ unwritten
  exact ⟨unwritten, e, refused, kind⟩

end RowId

end EventFlow
