import EventFlow.Text.Blank
import EventFlow.Text.Digits
import Mathlib.Algebra.Group.Nat.Defs
import Mathlib.Data.List.TakeWhile

/-!
# Numbers in decimal

Which texts write a number, and which number they write: digits, at least one, behind an optional
sign.  Leading zeros are allowed.  The readers of indices and of integers accept exactly these
texts, within their bounds, and the text in which a number is shown is one of them.
-/

namespace EventFlow.Text

variable {digits cs rest : List Char} {c : Char} {m i : Nat} {n : Int} {r : Range}

/-! ## Digits -/

/-- The characters are decimal digits, at least one, and write a natural number. -/
structure IsDecimal (digits : List Char) (m : Nat) : Prop where
  nonempty : digits ≠ []
  allDigits : ∀ c ∈ digits, c.isDigit = true
  value : Nat.ofDigitChars 10 digits 0 = m

theorem digitsValue_eq_ofDigitChars (digits : List Char) :
    digitsValue digits = Nat.ofDigitChars 10 digits 0 := by
  rw [Nat.ofDigitChars_eq_foldl]
  rfl

theorem readNat?_eq_some_iff : readNat? digits = some m ↔ IsDecimal digits m := by
  rw [readNat?, digitsValue_eq_ofDigitChars, Option.ite_none_right_eq_some, List.all_eq_true,
    Option.some_inj]
  exact ⟨fun ⟨⟨nonempty, allDigits⟩, value⟩ => ⟨nonempty, allDigits, value⟩,
    fun decimal => ⟨⟨decimal.nonempty, decimal.allDigits⟩, decimal.value⟩⟩

theorem isDecimal_toDigits (m : Nat) : IsDecimal (Nat.toDigits 10 m) m where
  nonempty := Nat.toDigits_ne_nil
  allDigits := fun _ => Nat.isDigit_of_mem_toDigits (by decide) (by decide)
  value := Nat.ofDigitChars_ten_toDigits

theorem isDecimal_toString (m : Nat) : IsDecimal (toString m).toList m := by
  rw [Nat.toString_eq_ofList_toDigits, String.toList_ofList]
  exact isDecimal_toDigits m

theorem not_isDecimal_nil : ¬ IsDecimal [] m :=
  fun decimal => decimal.nonempty rfl

/-- Digits do not begin with a sign. -/
theorem IsDecimal.unsigned (decimal : IsDecimal (c :: rest) m) : ¬ (c = '+' ∨ c = '-') := by
  have digit : c.isDigit = true := decimal.allDigits c List.mem_cons_self
  rintro (rfl | rfl) <;> exact absurd digit (by decide)

theorem isBlank_of_isDigit (digit : c.isDigit = true) : isBlank c = false := by
  simp only [Char.isDigit, Bool.and_eq_true, decide_eq_true_eq, UInt32.le_iff_toNat_le,
    ge_iff_le] at digit
  have least : 48 ≤ c.toNat := digit.1
  have greatest : c.toNat ≤ 57 := digit.2
  simp only [isBlank, Bool.or_eq_false_iff, Bool.and_eq_false_iff, beq_eq_false_iff_ne,
    decide_eq_false_iff_not]
  omega

/-! ## Indices -/

/-- The text of an index: digits behind an optional plus sign, of a number that fits a machine
word. -/
inductive WritesIndex : List Char → Nat → Prop
  | plain {digits : List Char} {i : Nat} (decimal : IsDecimal digits i) (fits : i < 2 ^ 64) :
      WritesIndex digits i
  | plus {digits : List Char} {i : Nat} (decimal : IsDecimal digits i) (fits : i < 2 ^ 64) :
      WritesIndex ('+' :: digits) i

theorem filter_readNat?_eq_some_iff :
    (readNat? digits).filter (· < wordLimit) = some i ↔ IsDecimal digits i ∧ i < 2 ^ 64 := by
  rw [Option.filter_eq_some_iff, readNat?_eq_some_iff, decide_eq_true_eq]
  rfl

/-- Indices are read off their texts, and off nothing else. -/
theorem readIndex?_eq_some_iff : readIndex? cs = some i ↔ WritesIndex cs i := by
  unfold readIndex?
  split
  · rename_i digits
    rw [filter_readNat?_eq_some_iff]
    constructor
    · rintro ⟨decimal, fits⟩
      exact .plus decimal fits
    · intro written
      cases written with
      | plain decimal fits => exact absurd (.inl rfl) decimal.unsigned
      | plus decimal fits => exact ⟨decimal, fits⟩
  · rename_i unsigned
    rw [filter_readNat?_eq_some_iff]
    constructor
    · rintro ⟨decimal, fits⟩
      exact .plain decimal fits
    · intro written
      cases written with
      | plain decimal fits => exact ⟨decimal, fits⟩
      | plus decimal fits => exact absurd rfl (unsigned _)

theorem writesIndex_toString (fits : i < 2 ^ 64) : WritesIndex (toString i).toList i :=
  .plain (isDecimal_toString i) fits

/-! ## Integers -/

/-- The text of an integer: digits behind an optional sign. -/
inductive WritesInteger : List Char → Int → Prop
  | plain {digits : List Char} {m : Nat} (decimal : IsDecimal digits m) :
      WritesInteger digits m
  | plus {digits : List Char} {m : Nat} (decimal : IsDecimal digits m) :
      WritesInteger ('+' :: digits) m
  | minus {digits : List Char} {m : Nat} (decimal : IsDecimal digits m) :
      WritesInteger ('-' :: digits) (-m)

theorem withinRange_eq_ok_iff {negative : Bool} :
    withinRange r negative m = .ok n ↔
      n = (if negative then -(m : Int) else m) ∧ r.least ≤ n ∧ n ≤ r.greatest := by
  rw [withinRange]
  generalize (if negative then -(m : Int) else m) = signed
  split
  · simp only [reduceCtorEq, false_iff]
    omega
  · split
    · simp only [reduceCtorEq, false_iff]
      omega
    · rw [Except.ok.injEq]
      omega

/-- What stands behind the sign, if there is one, is a natural number, and with its sign it lies
within the bounds. -/
theorem readInteger_cons_eq_ok_iff :
    readInteger r (c :: rest) = .ok n ↔
      ∃ m, IsDecimal (if c = '+' ∨ c = '-' then rest else c :: rest) m ∧
        n = (if c = '-' then -(m : Int) else m) ∧ r.least ≤ n ∧ n ≤ r.greatest := by
  unfold readInteger
  dsimp only
  -- The run of digits is judged against the bounds before it is compared with the whole text, so
  -- the bounds are part of both directions.
  generalize (if c = '+' ∨ c = '-' then rest else c :: rest) = body
  constructor
  · intro read
    cases within : withinRange r (c = '-') (digitsValue (body.takeWhile Char.isDigit)) with
    | error fault =>
        rw [within] at read
        cases read
    | ok signed =>
        rw [within] at read
        dsimp only at read
        split at read
        · cases read
        · rename_i run
          cases read
          rw [not_or, not_not] at run
          obtain ⟨nonempty, whole⟩ := run
          rw [whole] at nonempty within
          refine ⟨digitsValue body, ⟨nonempty, List.takeWhile_eq_self_iff.mp whole,
            (digitsValue_eq_ofDigitChars body).symm⟩, ?_⟩
          simpa only [decide_eq_true_eq] using withinRange_eq_ok_iff.mp within
  · rintro ⟨m, decimal, signed⟩
    have whole : body.takeWhile Char.isDigit = body :=
      List.takeWhile_eq_self_iff.mpr decimal.allDigits
    have within : withinRange r (c = '-') m = .ok n :=
      withinRange_eq_ok_iff.mpr (by simpa only [decide_eq_true_eq] using signed)
    rw [whole, digitsValue_eq_ofDigitChars, decimal.value, within]
    simp [decimal.nonempty]

/-- Integers of a range are read off their texts, and off nothing else. -/
theorem readInteger_eq_ok_iff :
    readInteger r cs = .ok n ↔ WritesInteger cs n ∧ r.least ≤ n ∧ n ≤ r.greatest := by
  cases cs with
  | nil =>
      refine ⟨fun read => (by cases read), fun ⟨written, _⟩ => ?_⟩
      cases written with
      | plain decimal => exact absurd decimal not_isDecimal_nil
  | cons c rest =>
      rw [readInteger_cons_eq_ok_iff]
      constructor
      · rintro ⟨m, decimal, rfl, within⟩
        by_cases plus : c = '+'
        · subst plus
          exact ⟨.plus decimal, within⟩
        · by_cases minus : c = '-'
          · subst minus
            exact ⟨.minus decimal, within⟩
          · rw [if_neg (not_or.mpr ⟨plus, minus⟩)] at decimal
            rw [if_neg minus] at within ⊢
            exact ⟨.plain decimal, within⟩
      · rintro ⟨written, within⟩
        cases written with
        | plus decimal => exact ⟨_, decimal, rfl, within⟩
        | minus decimal => exact ⟨_, decimal, rfl, within⟩
        | plain decimal =>
            have unsigned := decimal.unsigned
            rw [if_neg unsigned]
            exact ⟨_, decimal, (if_neg fun minus => unsigned (.inr minus)).symm, within⟩

/-- An integer is shown in a text that writes it. -/
theorem writesInteger_toString (n : Int) : WritesInteger (toString n).toList n := by
  cases n with
  | ofNat m => exact .plain (isDecimal_toString m)
  | negSucc m =>
      have shown : (toString (Int.negSucc m)).toList = '-' :: (toString (m + 1)).toList := by
        rw [show toString (Int.negSucc m) = "-" ++ toString (m + 1) from rfl, String.toList_append]
        rfl
      rw [shown]
      exact .minus (isDecimal_toString (m + 1))

theorem WritesInteger.ne_nil (written : WritesInteger cs n) : cs ≠ [] := by
  cases written with
  | plain decimal => exact decimal.nonempty
  | plus decimal | minus decimal => exact List.cons_ne_nil _ _

theorem WritesInteger.not_isBlank (written : WritesInteger cs n) : ∀ c ∈ cs, isBlank c = false := by
  cases written with
  | plain decimal => exact fun c charMem => isBlank_of_isDigit (decimal.allDigits c charMem)
  | plus decimal =>
      exact List.forall_mem_cons.mpr
        ⟨by decide, fun c charMem => isBlank_of_isDigit (decimal.allDigits c charMem)⟩
  | minus decimal =>
      exact List.forall_mem_cons.mpr
        ⟨by decide, fun c charMem => isBlank_of_isDigit (decimal.allDigits c charMem)⟩

end EventFlow.Text
