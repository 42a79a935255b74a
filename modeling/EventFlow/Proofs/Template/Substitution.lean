import EventFlow.Template
import Mathlib.Data.List.Basic

/-!
# Filling a template at once and in turn

A template is cut into letters and slots, from the left: a slot is a placeholder of a variable.
Filling all slots at once puts in the text of each variable as it is.  A renderer that fills one
variable after the other looks again at what it has put in, and so comes to something else when
the text of a variable, or what stands around it, makes the placeholder of a later variable.  It
comes to the same where nothing is left to be filled in the end.
-/

namespace EventFlow.Template

open EventFlow.Text

/-! ## Placeholders -/

/-- A brace that opens a placeholder. -/
def opening : Char := '\x7b'

/-- A brace that closes a placeholder. -/
def closing : Char := '\x7d'

/-- A key without braces. -/
def Unbraced (key : String) : Prop :=
  opening ∉ key.toList ∧ closing ∉ key.toList

instance {key : String} : Decidable (Unbraced key) :=
  inferInstanceAs (Decidable (_ ∧ _))

/-- What stands in a placeholder behind its opening braces. -/
def inside (key : String) : List Char :=
  key.toList ++ [closing, closing]

theorem placeholder_eq (key : String) : placeholder key = opening :: opening :: inside key := rfl

theorem placeholder_ne_nil (key : String) : placeholder key ≠ [] := by
  simp [placeholder_eq]

theorem inside_ne_nil (key : String) : inside key ≠ [] := by
  simp [inside]

theorem opening_not_mem_inside {key : String} (unbraced : Unbraced key) :
    opening ∉ inside key := by
  simp only [inside, List.mem_append, List.mem_cons, List.not_mem_nil, or_false, not_or]
  exact ⟨unbraced.1, by decide, by decide⟩

/-- Of two keys without braces the placeholders do not begin alike. -/
theorem eq_of_begins {key other : String} (unbraced : Unbraced key)
    (otherUnbraced : Unbraced other) {rest : List Char}
    (begins : inside key <+: inside other ++ rest) : key = other := by
  apply String.toList_inj.mp
  have ends := unbraced.2
  have otherEnds := otherUnbraced.2
  simp only [inside, List.append_assoc] at begins
  generalize key.toList = first at *
  generalize other.toList = second at *
  induction first generalizing second with
  | nil =>
      cases second with
      | nil => rfl
      | cons c second =>
          obtain ⟨same, _⟩ := List.cons_prefix_cons.mp begins
          simp [same] at otherEnds
  | cons c first ih =>
      cases second with
      | nil =>
          obtain ⟨same, _⟩ := List.cons_prefix_cons.mp begins
          simp [same] at ends
      | cons d second =>
          obtain ⟨rfl, begins⟩ := List.cons_prefix_cons.mp begins
          simp only [List.mem_cons, not_or] at ends otherEnds
          rw [ih ends.2 second otherEnds.2 (by simpa using begins)]

/-! ## Finding and replacing -/

theorem holds_iff {needle text : List Char} : holds needle text = true ↔ needle <:+: text := by
  induction text with
  | nil => simp [holds]
  | cons c text ih =>
      simp only [holds, Bool.or_eq_true, List.isPrefixOf_iff_prefix, ih, List.infix_cons_iff]

theorem replaceAll_nil (needle replacement : List Char) :
    replaceAll needle replacement [] = [] := by
  rw [replaceAll]

/-- Where the text does not begin, a character is passed by. -/
theorem replaceAll_cons_of_not_begins {needle replacement rest : List Char} {c : Char}
    (other : ¬ needle <+: c :: rest) :
    replaceAll needle replacement (c :: rest) = c :: replaceAll needle replacement rest := by
  rw [replaceAll, if_neg]
  rw [List.isPrefixOf_iff_prefix]
  exact fun both => other both.1

/-- Where the text begins it is replaced. -/
theorem replaceAll_append {needle replacement rest : List Char} (searched : needle ≠ []) :
    replaceAll needle replacement (needle ++ rest) =
      replacement ++ replaceAll needle replacement rest := by
  cases needle with
  | nil => contradiction
  | cons c needle =>
      rw [List.cons_append, replaceAll, if_pos]
      · simp
      · rw [List.isPrefixOf_iff_prefix]
        exact ⟨⟨rest, by simp⟩, searched⟩

/-- A part of a text is passed by in which the text that is replaced begins nowhere. -/
theorem replaceAll_append_of_begins_nowhere {needle replacement part rest : List Char}
    (nowhere : ∀ left, left ≠ [] → left <:+ part → ¬ needle <+: left ++ rest) :
    replaceAll needle replacement (part ++ rest) =
      part ++ replaceAll needle replacement rest := by
  induction part with
  | nil => rfl
  | cons c part ih =>
      have here := nowhere (c :: part) (by simp) List.suffix_rfl
      rw [List.cons_append] at here ⊢
      rw [replaceAll_cons_of_not_begins here, ih, List.cons_append]
      intro left some ending
      exact nowhere left some (ending.trans (List.suffix_cons c part))

/-! ## Pieces -/

/-- A piece of a template: a letter, or a slot for a variable. -/
inductive Piece where
  | letter (c : Char)
  | slot (entry : String × Json)

/-- The variable whose placeholder a text begins with. -/
def variableAt? (vars : Bag) (text : List Char) : Option (String × Json) :=
  vars.find? fun entry => (placeholder entry.1).isPrefixOf text

/-- Cuts a template into its pieces, from the left. -/
def pieces (vars : Bag) : List Char → List Piece
  | [] => []
  | c :: rest =>
    match variableAt? vars (c :: rest) with
    | some entry => .slot entry :: pieces vars (rest.drop ((placeholder entry.1).length - 1))
    | none => .letter c :: pieces vars rest
  termination_by text => text.length
  decreasing_by
    · simp only [List.length_cons, List.length_drop]; omega
    · simp

/-- The text of a piece, when the slots of some keys are filled. -/
def Piece.text (filled : String → Bool) : Piece → List Char
  | .letter c => [c]
  | .slot entry => if filled entry.1 then entry.2.display.toList else placeholder entry.1

/-- The text of some pieces, when the slots of some keys are filled. -/
def textOf (filled : String → Bool) (parts : List Piece) : List Char :=
  parts.flatMap (Piece.text filled)

/-- Fills all slots of a template at once: each placeholder of a variable gives way to the text
of the variable, and all else stays. -/
def substitute (vars : Bag) (template : List Char) : List Char :=
  textOf (fun _ => true) (pieces vars template)

section Pieces

variable {filled : String → Bool} {vars : Bag}

@[simp]
theorem textOf_nil : textOf filled [] = [] := rfl

@[simp]
theorem textOf_cons (part : Piece) (parts : List Piece) :
    textOf filled (part :: parts) = part.text filled ++ textOf filled parts := rfl

/-- A text in which a variable is found is its placeholder with what stands behind it. -/
theorem append_of_variableAt? {c : Char} {rest : List Char} {entry : String × Json}
    (found : variableAt? vars (c :: rest) = some entry) :
    placeholder entry.1 ++ rest.drop ((placeholder entry.1).length - 1) = c :: rest := by
  obtain ⟨behind, same⟩ : placeholder entry.1 <+: c :: rest := by
    simpa using List.find?_some found
  have length : 0 < (placeholder entry.1).length := by simp [placeholder_eq]
  rw [← List.drop_succ_cons (a := c), ← same, Nat.sub_add_cancel length, List.drop_left]

/-- Before any slot is filled the pieces make up the template. -/
theorem textOf_pieces (vars : Bag) (template : List Char) :
    textOf (fun _ => false) (pieces vars template) = template := by
  induction template using pieces.induct vars with
  | case1 => rw [pieces, textOf_nil]
  | case2 c rest entry found ih =>
      rw [pieces, found, textOf_cons, ih]
      exact append_of_variableAt? found
  | case3 c rest none ih =>
      rw [pieces, none, textOf_cons, ih]
      rfl

/-- A slot is one of the variable that comes first with its key. -/
theorem lookup_of_slot_mem {template : List Char} {entry : String × Json}
    (slotMem : .slot entry ∈ pieces vars template) :
    entry ∈ vars ∧ vars.lookup entry.1 = some entry.2 := by
  induction template using pieces.induct vars with
  | case1 => simp [pieces] at slotMem
  | case2 c rest found at_ ih =>
      rw [pieces, at_] at slotMem
      rcases List.mem_cons.mp slotMem with same | slotMem
      · obtain rfl := Piece.slot.inj same
        refine ⟨List.mem_of_find?_eq_some at_, ?_⟩
        obtain ⟨begins, before, after, rfl, others⟩ := List.find?_eq_some_iff_append.mp at_
        have absent : before.lookup entry.1 = none := by
          apply List.lookup_eq_none_iff.mpr
          intro other otherMem
          have different := others other otherMem
          rw [bne_iff_ne]
          intro same
          simp [← same, begins] at different
        rw [List.lookup_append, absent, List.lookup_cons, beq_self_eq_true, Option.none_or]
      · exact ih slotMem
  | case3 c rest none ih =>
      rw [pieces, none] at slotMem
      exact ih (by simpa using slotMem)

end Pieces

/-! ## One variable -/

/-- The rest of a placeholder, behind a letter of it or more: it holds no opening brace but at its
start, and something behind that. -/
def IsRest (rest : List Char) : Prop :=
  opening ∉ rest.tail ∧ rest ≠ [opening]

theorem IsRest.tail {c : Char} {rest : List Char} (isRest : IsRest (c :: rest)) :
    opening ∉ rest :=
  isRest.1

theorem isRest_of_not_mem {rest : List Char} (free : opening ∉ rest) : IsRest rest := by
  refine ⟨fun braceMem => free (List.mem_of_mem_tail braceMem), ?_⟩
  rintro rfl
  simp at free

theorem IsRest.of_append {part rest : List Char} (isRest : IsRest (part ++ rest)) :
    IsRest rest := by
  cases part with
  | nil => exact isRest
  | cons c part =>
      apply isRest_of_not_mem
      exact fun braceMem => isRest.tail (List.mem_append_right part braceMem)

theorem isRest_behind_opening {key : String} (unbraced : Unbraced key) :
    IsRest (opening :: inside key) :=
  ⟨opening_not_mem_inside unbraced, by simp [inside_ne_nil]⟩

section Passing

variable {filled : String → Bool}

/-- The rest of a placeholder that stands somewhere before all slots are filled still stands
there afterwards: no slot that is not filled yet is a part of it. -/
theorem rest_begins_later {rest : List Char} (isRest : IsRest rest) {parts : List Piece}
    (begins : rest <+: textOf filled parts) : rest <+: textOf (fun _ => true) parts := by
  induction parts generalizing rest with
  | nil => exact begins
  | cons part parts ih =>
      have beyond (text : List Char) (begins : rest <+: text ++ textOf filled parts) :
          rest <+: text ++ textOf (fun _ => true) parts := by
        rcases List.prefix_or_prefix_of_prefix begins (List.prefix_append text _) with
          short | ⟨behind, rfl⟩
        · exact short.trans (List.prefix_append _ _)
        · rw [List.prefix_append_right_inj] at begins ⊢
          exact ih isRest.of_append begins
      cases part with
      | letter c => exact beyond [c] begins
      | slot entry =>
          cases isFilled : filled entry.1 with
          | true =>
              simp only [textOf_cons, Piece.text, isFilled, if_true] at begins ⊢
              exact beyond _ begins
          | false =>
              -- The slot begins with two braces.
              simp only [textOf_cons, Piece.text, isFilled, placeholder_eq] at begins
              match rest with
              | [] => exact List.nil_prefix
              | [c] =>
                  obtain ⟨rfl, _⟩ := List.cons_prefix_cons.mp begins
                  exact absurd rfl isRest.2
              | c :: d :: rest =>
                  obtain ⟨_, begins⟩ := List.cons_prefix_cons.mp begins
                  obtain ⟨rfl, _⟩ := List.cons_prefix_cons.mp begins
                  exact absurd List.mem_cons_self isRest.tail

/-- A placeholder that begins within a text before all slots behind it are filled still begins
there afterwards. -/
theorem placeholder_begins_later {key : String} (unbraced : Unbraced key) {text : List Char}
    (some : text ≠ []) {parts : List Piece}
    (begins : placeholder key <+: text ++ textOf filled parts) :
    placeholder key <+: text ++ textOf (fun _ => true) parts := by
  rcases List.prefix_or_prefix_of_prefix begins (List.prefix_append text _) with
    short | ⟨behind, whole⟩
  · exact short.trans (List.prefix_append _ _)
  · have isRest : IsRest behind := by
      cases text with
      | nil => contradiction
      | cons c text =>
          rw [placeholder_eq, List.cons_append, List.cons.injEq] at whole
          have joined : IsRest (text ++ behind) := by
            rw [whole.2]
            exact isRest_behind_opening unbraced
          exact joined.of_append
    rw [← whole, List.prefix_append_right_inj] at begins ⊢
    exact rest_begins_later isRest begins

/-- The placeholder of a key begins nowhere in that of another one. -/
theorem placeholder_begins_nowhere {key other : String} (unbraced : Unbraced key)
    (otherUnbraced : Unbraced other) (different : other ≠ key) {left rest : List Char}
    (some : left ≠ []) (ending : left <:+ placeholder other) :
    ¬ placeholder key <+: left ++ rest := by
  intro begins
  have free := opening_not_mem_inside otherUnbraced
  rw [placeholder_eq, List.suffix_cons_iff, List.suffix_cons_iff] at ending
  rw [placeholder_eq] at begins
  rcases ending with rfl | rfl | ending
  · simp only [List.cons_append, List.cons_prefix_cons, true_and] at begins
    exact different (eq_of_begins unbraced otherUnbraced begins).symm
  · simp only [List.cons_append, List.cons_prefix_cons, true_and] at begins
    match behind : inside other with
    | [] => exact inside_ne_nil other behind
    | c :: _ =>
        rw [behind] at begins free
        obtain ⟨rfl, _⟩ := List.cons_prefix_cons.mp begins
        exact free List.mem_cons_self
  · match left with
    | [] => exact some rfl
    | c :: left =>
        obtain ⟨rfl, _⟩ := List.cons_prefix_cons.mp begins
        exact free (ending.subset List.mem_cons_self)

/-- Filling one variable fills its slots and nothing else, if its placeholder is nowhere to be
found when all slots are filled. -/
theorem replaceAll_textOf {key : String} {value : Json} (unbraced : Unbraced key)
    {parts : List Piece} (keys : ∀ entry, .slot entry ∈ parts → Unbraced entry.1)
    (values : ∀ entry, .slot entry ∈ parts → filled entry.1 = false → entry.1 = key →
      entry.2 = value)
    (settled : ¬ placeholder key <:+: textOf (fun _ => true) parts) :
    replaceAll (placeholder key) value.display.toList (textOf filled parts) =
      textOf (fun other => filled other || other == key) parts := by
  induction parts with
  | nil => exact replaceAll_nil _ _
  | cons part parts ih =>
      rw [textOf_cons] at settled
      have settledBehind : ¬ placeholder key <:+: textOf (fun _ => true) parts :=
        fun found => settled (List.infix_append_of_infix_right found)
      have ih := ih (fun entry slotMem => keys entry (List.mem_cons_of_mem _ slotMem))
        (fun entry slotMem => values entry (List.mem_cons_of_mem _ slotMem)) settledBehind
      -- Where a text is put in that stays, nothing is found in it and across its end.
      have passes (text : List Char) (same : part.text (fun _ => true) = text) :
          replaceAll (placeholder key) value.display.toList (text ++ textOf filled parts) =
            text ++ replaceAll (placeholder key) value.display.toList (textOf filled parts) := by
        apply replaceAll_append_of_begins_nowhere
        intro left some ending begins
        apply settled
        rw [same]
        have found := (placeholder_begins_later unbraced some begins).isInfix
        exact found.trans (List.suffix_append_self_iff.mpr ending).isInfix
      simp only [textOf_cons]
      cases part with
      | letter c =>
          rw [← ih]
          exact passes [c] rfl
      | slot entry =>
          cases isFilled : filled entry.1 with
          | true =>
              simp only [Piece.text, isFilled, if_true, Bool.true_or]
              rw [← ih]
              exact passes _ rfl
          | false =>
              by_cases same : entry.1 = key
              · have value_eq := values entry List.mem_cons_self isFilled same
                have now : Piece.text (fun other => filled other || other == key) (.slot entry) =
                    value.display.toList := by
                  simp [Piece.text, same, value_eq]
                have before : Piece.text filled (.slot entry) = placeholder key := by
                  rw [Piece.text, isFilled, same]
                  rfl
                rw [now, before, replaceAll_append (placeholder_ne_nil key), ih]
              · have still : Piece.text (fun other => filled other || other == key) (.slot entry) =
                    placeholder entry.1 := by
                  simp [Piece.text, isFilled, same]
                have before : Piece.text filled (.slot entry) = placeholder entry.1 := by
                  simp [Piece.text, isFilled]
                have otherUnbraced := keys entry List.mem_cons_self
                rw [still, before, replaceAll_append_of_begins_nowhere, ih]
                intro left some ending
                exact placeholder_begins_nowhere unbraced otherUnbraced same some ending

end Passing

/-! ## All variables -/

theorem textOf_congr {filled also : String → Bool} {parts : List Piece}
    (same : ∀ entry, .slot entry ∈ parts → filled entry.1 = also entry.1) :
    textOf filled parts = textOf also parts := by
  apply List.flatMap_congr
  intro part partMem
  cases part with
  | letter c => rfl
  | slot entry => simp only [Piece.text, same entry partMem]

/-- Is one of the variables under the key? -/
def hasKey (vars : Bag) (key : String) : Bool :=
  vars.any fun entry => entry.1 == key

section Turns

variable {vars : Bag} {template : List Char}

/-- Filling one variable puts in its text at all of its slots at once. -/
theorem fillOne_eq_substitute (text : List Char) (entry : String × Json) :
    fillOne text entry = substitute [entry] text := by
  rw [fillOne, substitute]
  induction text using pieces.induct [entry] with
  | case1 => rw [replaceAll_nil, pieces, textOf_nil]
  | case2 c rest other found ih =>
      obtain rfl : other = entry := by simpa using List.mem_of_find?_eq_some found
      rw [pieces, found, textOf_cons, ← ih, ← append_of_variableAt? found,
        replaceAll_append (placeholder_ne_nil other.1)]
      rfl
  | case3 c rest none ih =>
      have other : ¬ placeholder entry.1 <+: c :: rest := by
        simpa [variableAt?] using none
      rw [replaceAll_cons_of_not_begins other, pieces, none, textOf_cons, ← ih]
      rfl

/-- A template that holds no two opening braces has no slots. -/
theorem substitute_of_not_holds (vars : Bag) {text : List Char}
    (plain : holds [opening, opening] text = false) : substitute vars text = text := by
  rw [← Bool.not_eq_true, holds_iff] at plain
  rw [substitute]
  induction text using pieces.induct vars with
  | case1 => rw [pieces, textOf_nil]
  | case2 c rest entry found ih =>
      refine absurd (List.IsPrefix.isInfix ?_) plain
      rw [← append_of_variableAt? found]
      exact ⟨inside entry.1 ++ _, rfl⟩
  | case3 c rest none ih =>
      have behind := ih fun found => plain (List.infix_cons found)
      rw [pieces, none, textOf_cons, behind]
      rfl

/-- When some variables have been filled in turn, filling the others comes to filling all
slots. -/
theorem foldl_fillOne_textOf (unbraced : ∀ entry ∈ vars, Unbraced entry.1)
    (settled : ∀ entry ∈ vars, holds (placeholder entry.1) (substitute vars template) = false)
    {done rest : Bag} (split : vars = done ++ rest) :
    rest.foldl fillOne (textOf (hasKey done) (pieces vars template)) =
      textOf (hasKey vars) (pieces vars template) := by
  induction rest generalizing done with
  | nil => rw [split, List.append_nil, List.foldl_nil]
  | cons entry rest ih =>
      have entryMem : entry ∈ vars := by simp [split]
      have keys (slot : String × Json) (slotMem : .slot slot ∈ pieces vars template) :
          Unbraced slot.1 := unbraced slot (lookup_of_slot_mem slotMem).1
      have values (slot : String × Json) (slotMem : .slot slot ∈ pieces vars template)
          (unfilled : hasKey done slot.1 = false) (same : slot.1 = entry.1) :
          slot.2 = entry.2 := by
        have first := (lookup_of_slot_mem slotMem).2
        have absent : done.lookup entry.1 = none := by
          apply List.lookup_eq_none_iff.mpr
          intro other otherMem
          rw [bne_iff_ne]
          intro sameKey
          apply List.any_eq_false.mp unfilled other otherMem
          rw [same, sameKey, beq_self_eq_true]
        rw [split, same, List.lookup_append, absent, List.lookup_cons, beq_self_eq_true,
          Option.none_or] at first
        exact (Option.some.inj first).symm
      have absent : ¬ placeholder entry.1 <:+: substitute vars template := by
        rw [← holds_iff, settled entry entryMem]
        exact Bool.false_ne_true
      have filledOne : fillOne (textOf (hasKey done) (pieces vars template)) entry =
          textOf (hasKey (done ++ [entry])) (pieces vars template) := by
        have passed := replaceAll_textOf (unbraced entry entryMem) keys values absent
        refine passed.trans (textOf_congr fun slot _ => ?_)
        simp [hasKey, Bool.beq_comm]
      rw [List.foldl_cons, filledOne]
      exact ih (by simp [split])

/-- Filling variables in turn comes to filling all slots at once, if no key holds a brace and
no placeholder of a variable is to be found in the end. -/
theorem foldl_fillOne_eq_substitute (unbraced : ∀ entry ∈ vars, Unbraced entry.1)
    (settled : ∀ entry ∈ vars, holds (placeholder entry.1) (substitute vars template) = false) :
    vars.foldl fillOne template = substitute vars template := by
  have filled := foldl_fillOne_textOf unbraced settled (List.nil_append vars).symm
  rw [show textOf (hasKey []) (pieces vars template) = template from textOf_pieces vars template]
    at filled
  rw [filled, substitute]
  apply textOf_congr
  intro entry slotMem
  exact List.any_eq_true.mpr ⟨entry, (lookup_of_slot_mem slotMem).1, beq_self_eq_true _⟩

end Turns

/-! ## Rendering -/

/-- Variables are filled in turn, in the order of their keys, and each is put in at all of its
places at once.  This comes to filling all of them at once, if no key holds a brace and no
placeholder of a variable is to be found in the end. -/
theorem fill_in_turn (template : String) (vars : Bag) :
    fill template vars = String.ofList
        (vars.foldl (fun text entry => substitute [entry] text) template.toList) ∧
      ((∀ entry ∈ vars, Unbraced entry.1) →
        (∀ entry ∈ vars,
          holds (placeholder entry.1) (substitute vars template.toList) = false) →
        fill template vars = String.ofList (substitute vars template.toList)) := by
  have inTurn : (fun text entry => substitute [entry] text) = fillOne := by
    funext text entry
    exact (fillOne_eq_substitute text entry).symm
  rw [inTurn, fill]
  by_cases braces : holds ['\x7b', '\x7b'] template.toList = true
  · rw [if_pos braces]
    refine ⟨rfl, fun unbraced settled => ?_⟩
    rw [foldl_fillOne_eq_substitute unbraced settled]
  · have plain : holds [opening, opening] template.toList = false :=
      Bool.eq_false_iff.mpr braces
    rw [if_neg braces]
    refine ⟨?_, fun _ _ => ?_⟩
    · have unchanged : vars.foldl fillOne template.toList = template.toList := by
        induction vars with
        | nil => rfl
        | cons entry vars ih =>
            rw [List.foldl_cons, fillOne_eq_substitute, substitute_of_not_holds _ plain, ih]
      rw [unchanged, String.ofList_toList]
    · rw [substitute_of_not_holds vars plain, String.ofList_toList]

/-- A template with braces of its own and a placeholder that no variable has. -/
def notice : String :=
  "\x7b\x7bname\x7d\x7d: \x7b \x7b\x7bdata\x7d\x7d \x7d \x7b\x7bwho\x7d\x7d"

/-- Variables of which one has a text with braces. -/
def noticeVars : Bag :=
  [("data", .object [("n", .ofInt 1)]), ("name", .string "Ann")]

/-- Braces in a template and in texts do no harm as long as they make no placeholder. -/
theorem fill_in_turn_of_notice :
    (∀ entry ∈ noticeVars, Unbraced entry.1) ∧
      (∀ entry ∈ noticeVars,
        holds (placeholder entry.1) (substitute noticeVars notice.toList) = false) ∧
      fill notice noticeVars = String.ofList (substitute noticeVars notice.toList) ∧
      fill notice noticeVars = "Ann: \x7b \x7b\"n\":1\x7d \x7d \x7b\x7bwho\x7d\x7d" := by
  have unbraced : ∀ entry ∈ noticeVars, Unbraced entry.1 := by decide +kernel
  have settled : ∀ entry ∈ noticeVars,
      holds (placeholder entry.1) (substitute noticeVars notice.toList) = false := by
    decide +kernel
  have filled := (fill_in_turn notice noticeVars).2 unbraced settled
  refine ⟨unbraced, settled, filled, filled.trans ?_⟩
  decide +kernel

/-- A text that holds the placeholder of a later variable is not put in as it is. -/
theorem fill_expands_text :
    ¬ ∀ (template : String) (vars : Bag),
      fill template vars = String.ofList (substitute vars template.toList) := by
  intro verbatim
  have filled := verbatim "\x7b\x7ba\x7d\x7d"
    [("a", .string "\x7b\x7bb\x7d\x7d"), ("b", .string "secret")]
  revert filled
  decide +kernel

end EventFlow.Template
