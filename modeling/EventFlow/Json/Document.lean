import EventFlow.Json.Literal

/-!
# JSON documents

A `Document` is the tree of a JSON text as far as it can be read.  Where the
text goes wrong the tree ends: in a `broken` value, or in the ending of the
array or object that could not be completed.  So a reader that wants a certain
record can walk the tree in the order of the text and meet what is wrong with
the record and what is wrong with the text in the order in which they stand
there.

`Json.parse` is the reader that wants any JSON value.
-/

namespace EventFlow.Json

/-- How the items of an array or the members of an object end: at the closing
bracket, or at a place where the text goes wrong, perhaps behind a comma. -/
inductive Ending where
  | closed
  | broken (fault : Fault) (afterComma : Bool)

/-- A JSON text as a tree.  The key of a member is a literal like any other string.
Of a word that the text breaks off or misspells the first letter is kept. -/
inductive Document where
  | null
  | bool (value : Bool)
  | number (literal : Literal Number)
  | string (literal : Literal String)
  | array (items : List Document) (ending : Ending)
  | object (members : List (Literal String × Document)) (ending : Ending)
  | broken (fault : Fault) (letter : Option Char)

/-- The document of a value: nothing in it is wrong. -/
def Literal.ofValue {α : Type} (value : α) : Literal α :=
  ⟨.ok value, none⟩

mutual

/-- A value as a document. -/
def Document.ofJson : Json → Document
  | .null => .null
  | .bool b => .bool b
  | .number n => .number (.ofValue n)
  | .string s => .string (.ofValue s)
  | .array items => .array (Document.ofItems items) .closed
  | .object members => .object (Document.ofMembers members) .closed

/-- The items of an array as documents. -/
def Document.ofItems : List Json → List Document
  | [] => []
  | item :: rest => Document.ofJson item :: Document.ofItems rest

/-- The members of an object as documents. -/
def Document.ofMembers : List (String × Json) → List (Literal String × Document)
  | [] => []
  | (key, value) :: rest => (.ofValue key, Document.ofJson value) :: Document.ofMembers rest

end

/-! ## From text -/

/-- The blanks between the parts of a JSON text. -/
def isSpace (c : Char) : Bool :=
  c == ' ' || c == '\n' || c == '\t' || c == '\r'

/-- The characters without the blanks in front. -/
def skipSpace (cs : List Char) : List Char :=
  cs.dropWhile isSpace

/-- The rest of a text behind a value, or nothing if the text went wrong in it. -/
abbrev Rest : Type := Option (List Char)

/-- Reads the given letters. -/
def readWord : List Char → List Char → Except Fault (List Char)
  | [], cs => .ok cs
  | _ :: _, [] => .error .unfinished
  | w :: word, c :: cs => if c = w then readWord word cs else .error .malformed

/-- Reads the rest of a word of which the first letter has been seen. -/
def wordDocument (letter : Char) (word : String) (value : Document) (cs : List Char) :
    Document × Rest :=
  match readWord word.toList cs with
  | .ok rest => (value, some rest)
  | .error fault => (.broken fault (some letter), none)

/-- The rest behind a literal. -/
def Literal.rest {α : Type} (l : Literal α) (cs : List Char) : Rest :=
  if l.scanFault.isSome then none else some cs

mutual

/-- Reads a value.  The fuel bounds the number of nested calls; three times the
length of the text is enough, since the three calls that an opening bracket takes
are the most for one character. -/
def readValue : Nat → List Char → Document × Rest
  | 0, _ => (.broken .unfinished none, none)
  | fuel + 1, cs =>
    match skipSpace cs with
    | [] => (.broken .unfinished none, none)
    | c :: rest =>
      if c = 'n' then wordDocument c "ull" .null rest
      else if c = 't' then wordDocument c "rue" (.bool true) rest
      else if c = 'f' then wordDocument c "alse" (.bool false) rest
      else if c = '-' ∨ c.isDigit then
        let (literal, after) := numberLiteral (c :: rest)
        (.number literal, literal.rest after)
      else if c = '"' then
        let (literal, after) := stringLiteral rest
        (.string literal, literal.rest after)
      else if c = '[' then
        let (items, ending, after) := readItems fuel true rest
        (.array items ending, after)
      else if c = '\x7b' then
        let (members, ending, after) := readMembers fuel true rest
        (.object members ending, after)
      else (.broken .malformed none, none)

/-- Reads the items of an array up to its closing bracket. -/
def readItems : Nat → Bool → List Char → List Document × Ending × Rest
  | 0, _, _ => ([], .broken .unfinished false, none)
  | fuel + 1, first, cs =>
    match skipSpace cs with
    | [] => ([], .broken .unfinished false, none)
    | c :: rest =>
      if c = ']' then ([], .closed, some rest)
      else if first then readItem fuel false (c :: rest)
      else if c = ',' then readItem fuel true rest
      else ([], .broken .malformed false, none)

/-- Reads an item and the items behind it. -/
def readItem : Nat → Bool → List Char → List Document × Ending × Rest
  | 0, afterComma, _ => ([], .broken .unfinished afterComma, none)
  | fuel + 1, afterComma, cs =>
    match skipSpace cs with
    | [] => ([], .broken .unfinished afterComma, none)
    | c :: rest =>
      if c = ']' then ([], .broken .malformed afterComma, none)
      else
        match readValue fuel (c :: rest) with
        | (item, none) => ([item], .closed, none)
        | (item, some after) =>
          let (items, ending, after) := readItems fuel false after
          (item :: items, ending, after)

/-- Reads the members of an object up to its closing bracket. -/
def readMembers : Nat → Bool → List Char →
    List (Literal String × Document) × Ending × Rest
  | 0, _, _ => ([], .broken .unfinished false, none)
  | fuel + 1, first, cs =>
    match skipSpace cs with
    | [] => ([], .broken .unfinished false, none)
    | c :: rest =>
      if c = '\x7d' then ([], .closed, some rest)
      else if first then readMember fuel false (c :: rest)
      else if c = ',' then readMember fuel true rest
      else ([], .broken .malformed false, none)

/-- Reads a member and the members behind it. -/
def readMember : Nat → Bool → List Char →
    List (Literal String × Document) × Ending × Rest
  | 0, afterComma, _ => ([], .broken .unfinished afterComma, none)
  | fuel + 1, afterComma, cs =>
    match skipSpace cs with
    | '"' :: rest =>
      let (key, after) := stringLiteral rest
      if key.scanFault.isSome then ([(key, .broken .malformed none)], .closed, none)
      else
        match skipSpace after with
        | ':' :: rest =>
          match readValue fuel rest with
          | (value, none) => ([(key, value)], .closed, none)
          | (value, some after) =>
            let (members, ending, after) := readMembers fuel false after
            ((key, value) :: members, ending, after)
        | [] => ([(key, .broken .unfinished none)], .closed, none)
        | _ :: _ => ([(key, .broken .malformed none)], .closed, none)
    | [] => ([], .broken .unfinished afterComma, none)
    | _ :: _ => ([], .broken .malformed afterComma, none)

end

/-- The document of a text, and whether anything but blanks stands behind it. -/
def Document.ofText (text : String) : Document × Bool :=
  let cs := text.toList
  match readValue (3 * cs.length + 3) cs with
  | (document, some rest) => (document, skipSpace rest != [])
  | (document, none) => (document, false)

/-! ## Any value -/

/-- The number of arrays and objects that may stand inside each other. -/
def nestingLimit : Nat := 127

/-- The end of an array or object that is read as a value. -/
def Ending.check : Ending → Except Fault Unit
  | .closed => .ok ()
  | .broken fault _ => .error fault

mutual

/-- The value of a document, with at most so many arrays and objects inside
each other.  Of members with the same key the last counts. -/
def Document.toJson (depth : Nat) : Document → Except Fault Json
  | .null => .ok .null
  | .bool b => .ok (.bool b)
  | .number literal => literal.value.map .number
  | .string literal => literal.value.map .string
  | .broken fault _ => .error fault
  | .array items ending =>
    match depth with
    | 0 => .error .malformed
    | depth + 1 => do
      let values ← Document.toItems depth items
      ending.check
      return .array values
  | .object members ending =>
    match depth with
    | 0 => .error .malformed
    | depth + 1 => do
      let values ← Document.toMembers depth members
      ending.check
      return .object (Bag.ofList values)

/-- The values of the items of an array. -/
def Document.toItems (depth : Nat) : List Document → Except Fault (List Json)
  | [] => .ok []
  | item :: rest => do
    let value ← item.toJson depth
    let values ← Document.toItems depth rest
    return value :: values

/-- The members of an object, in the order of the text. -/
def Document.toMembers (depth : Nat) :
    List (Literal String × Document) → Except Fault (List (String × Json))
  | [] => .ok []
  | (key, value) :: rest => do
    let key ← key.value
    let value ← value.toJson depth
    let members ← Document.toMembers depth rest
    return (key, value) :: members

end

mutual

/-- What keeps a document from being skipped. -/
def Document.skip : Document → Except Fault Unit
  | .null => .ok ()
  | .bool _ => .ok ()
  | .number literal => literal.scanFault.elim (.ok ()) .error
  | .string literal => literal.scanFault.elim (.ok ()) .error
  | .broken fault _ => .error fault
  | .array items ending => do
    Document.skipItems items
    ending.check
  | .object members ending => do
    Document.skipMembers members
    ending.check

/-- What keeps the items of an array from being skipped. -/
def Document.skipItems : List Document → Except Fault Unit
  | [] => .ok ()
  | item :: rest => do
    item.skip
    Document.skipItems rest

/-- What keeps the members of an object from being skipped. -/
def Document.skipMembers : List (Literal String × Document) → Except Fault Unit
  | [] => .ok ()
  | (key, value) :: rest => do
    key.scanFault.elim (.ok ()) .error
    value.skip
    Document.skipMembers rest

end

mutual

/-- How many arrays and objects stand inside each other at most. -/
def Document.height : Document → Nat
  | .array items _ => 1 + Document.itemsHeight items
  | .object members _ => 1 + Document.membersHeight members
  | _ => 0

/-- The greatest height of the items of an array. -/
def Document.itemsHeight : List Document → Nat
  | [] => 0
  | item :: rest => max item.height (Document.itemsHeight rest)

/-- The greatest height of the members of an object. -/
def Document.membersHeight : List (Literal String × Document) → Nat
  | [] => 0
  | (_, value) :: rest => max value.height (Document.membersHeight rest)

end

/-- Reads a JSON text as a value. -/
def parse (text : String) : Except Fault Json :=
  match Document.ofText text with
  | (document, trailing) => do
    let value ← document.toJson nestingLimit
    if trailing then .error .malformed else return value

end EventFlow.Json
