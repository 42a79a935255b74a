import EventFlow.Text.Blank
import EventFlow.Text.Unicode.AgeTable
import EventFlow.Text.Unicode.BinaryTable
import EventFlow.Text.Unicode.CategoryTable
import EventFlow.Text.Unicode.FoldingTable
import EventFlow.Text.Unicode.PropertyTable
import EventFlow.Text.Unicode.ScriptExtensionTable
import EventFlow.Text.Unicode.ScriptTable
import EventFlow.Text.Unicode.Table

/-!
# Character properties

Sets of characters by general category, by script and by age, the properties
that a character has or has not, and the closure of a set under simple case
folding, as version 16 of the Unicode standard has them.
-/

namespace EventFlow.Text.Unicode

/-! ## Categories, scripts and ages -/

/-- The characters of a general category, or of all categories whose names
start with a letter. -/
def category (name : String) : CharSet :=
  ofRuns (placeRuns 2 0 (words categoryRuns)) name.toList.isPrefixOf

/-- The characters of a script, by its four letters. -/
def script (letters : String) : CharSet :=
  ofRuns (placeRuns 4 0 (words scriptRuns)) (· == letters.toList)

/-- Characters that are written in other scripts than their own: the first and
the last code point, and the four letters of each script one after the other. -/
structure ScriptExtension where
  first : Nat
  last : Nat
  scripts : List Char

/-- Is the script, by its four letters, among some scripts? -/
def hasScript (letters : List Char) : List Char → Bool
  | a :: b :: c :: d :: rest => [a, b, c, d] == letters || hasScript letters rest
  | _ => false

/-- Places the entries of the table of script extensions. -/
def placeExtensions (start : Nat) : List (List Char) → List ScriptExtension
  | [] => []
  | word :: rest =>
    match splitAll '.' word with
    | [gap, size, scripts] =>
      let first := start + hexValue gap
      ⟨first, first + hexValue size - 1, scripts⟩ ::
        placeExtensions (first + hexValue size) rest
    | _ => placeExtensions start rest

/-- The characters that are written in a script, by its four letters. -/
def scriptExtension (letters : String) : CharSet :=
  let entries := placeExtensions 0 (words scriptExtensions)
  let set (es : List ScriptExtension) : CharSet := ⟨es.map fun e => (e.first, e.last)⟩
  ((script letters).diff (set entries)).union
    (set (entries.filter fun e => hasScript letters.toList e.scripts))

/-- The characters that came into the standard with one of its versions. -/
def ofVersions (letters : List Char) : CharSet :=
  ofRuns (placeRuns 1 0 (words ageRuns)) fun name => name.all letters.contains

/-- The characters that a version of the standard has, by its number. -/
def age? (version : String) : Option CharSet :=
  if versions.any fun (name, _) => name == version then
    let older := versions.takeWhile fun (name, _) => name != version
    let letters := (older ++ versions.filter fun (name, _) => name == version).map (·.2)
    some (ofVersions letters)
  else none

/-! ## Derived properties -/

/-- Letters of which there are an upper and a lower case, and title case. -/
def casedLetters : CharSet :=
  .unions [category "Lu", category "Ll", category "Lt"]

/-- The blanks. -/
def blanks : CharSet :=
  ⟨[(9, 13), (32, 32), (133, 133), (160, 160), (5760, 5760), (8192, 8202), (8232, 8233),
    (8239, 8239), (8287, 8287), (12288, 12288)]⟩

/-- The blanks of patterns. -/
def patternBlanks : CharSet :=
  ⟨[(9, 13), (32, 32), (133, 133), (0x200E, 0x200F), (0x2028, 0x2029)]⟩

/-- Alphabetic characters. -/
def alphabetic : CharSet :=
  .unions [casedLetters, category "Lm", category "Lo", category "Nl", ofTable otherAlphabetic]

/-- Upper case characters. -/
def uppercase : CharSet :=
  (category "Lu").union (ofTable otherUppercase)

/-- Lower case characters. -/
def lowercase : CharSet :=
  (category "Ll").union (ofTable otherLowercase)

/-- Characters that have a case. -/
def cased : CharSet :=
  .unions [uppercase, lowercase, category "Lt"]

/-- Characters of formulas. -/
def math : CharSet :=
  (category "Sm").union (ofTable otherMath)

/-- Characters that extend the one before them. -/
def graphemeExtend : CharSet :=
  .unions [category "Mn", category "Me", ofTable otherGraphemeExtend]

/-- Characters that another one may extend. -/
def graphemeBase : CharSet :=
  (CharSet.unions [category "C", category "Zl", category "Zp", graphemeExtend]).complement

/-- Characters that start identifiers though they are no letters. -/
def otherIdStart : CharSet :=
  ⟨[(0x1885, 0x1886), (0x2118, 0x2118), (0x212E, 0x212E), (0x309B, 0x309C)]⟩

/-- Characters that start identifiers. -/
def idStart : CharSet :=
  (CharSet.unions [category "L", category "Nl", otherIdStart]).diff ⟨[(0x2E2F, 0x2E2F)]⟩

/-- Characters that go on with identifiers though they are neither letters, marks
nor digits. -/
def otherIdContinue : CharSet :=
  ⟨[(0xB7, 0xB7), (0x387, 0x387), (0x1369, 0x1371), (0x19DA, 0x19DA), (0x200C, 0x200D),
    (0x30FB, 0x30FB), (0xFF65, 0xFF65)]⟩

/-- Characters that go on with identifiers. -/
def idContinue : CharSet :=
  .unions [idStart, category "Mn", category "Mc", category "Nd", category "Pc", otherIdContinue]

/-- Characters that start or go on with identifiers only before a text is
brought into a normal form. -/
def unstableInNormalForm : CharSet :=
  ⟨[(0x37A, 0x37A), (0x309B, 0x309C), (0xFC5E, 0xFC63), (0xFDFA, 0xFDFB), (0xFE70, 0xFE70),
    (0xFE72, 0xFE72), (0xFE74, 0xFE74), (0xFE76, 0xFE76), (0xFE78, 0xFE78), (0xFE7A, 0xFE7A),
    (0xFE7C, 0xFE7C), (0xFE7E, 0xFE7E)]⟩

/-- Characters that start identifiers in any normal form. -/
def stableIdStart : CharSet :=
  (idStart.diff unstableInNormalForm).diff
    ⟨[(0xE33, 0xE33), (0xEB3, 0xEB3), (0xFF9E, 0xFF9F)]⟩

/-- Characters that go on with identifiers in any normal form. -/
def stableIdContinue : CharSet :=
  idContinue.diff unstableInNormalForm

/-- The characters of a property that a table lists, by one of its names. -/
def listed? (name : String) : Option CharSet :=
  (binaryProperties.find? fun p => p.names.contains name).map fun p => ofTable p.table

/-- The characters of a property that a table lists; none without such a table. -/
def listed (name : String) : CharSet :=
  (listed? name).getD .empty

/-- Characters that are ignored where they cannot be shown. -/
def ignorable : CharSet :=
  (CharSet.unions [ofTable otherIgnorable, category "Cf", listed "variationselector"]).diff
    ((listed "prependedconcatenationmark").union ⟨[(0xFFF9, 0xFFFB), (0x13430, 0x13440)]⟩)

/-- Characters that do not count when the case of their neighbours is looked for. -/
def caseIgnorable : CharSet :=
  .unions [category "Mn", category "Me", category "Cf", category "Lm", category "Sk",
    ⟨[(0x27, 0x27), (0x2E, 0x2E), (0x3A, 0x3A), (0xB7, 0xB7), (0x387, 0x387), (0x55F, 0x55F),
      (0x5F4, 0x5F4), (0x2018, 0x2019), (0x2024, 0x2024), (0x2027, 0x2027), (0xFE13, 0xFE13),
      (0xFE52, 0xFE52), (0xFE55, 0xFE55), (0xFF07, 0xFF07), (0xFF0E, 0xFF0E),
      (0xFF1A, 0xFF1A)]⟩]

/-- Characters that have another lower case. -/
def changedByLowering : CharSet :=
  (uppercase.union (category "Lt")).diff (ofTable withoutLowerCase)

/-- Characters that have another upper case. -/
def changedByRaising : CharSet :=
  (lowercase.union (category "Lt")).diff (ofTable withoutUpperCase)

/-- Characters that have another title case. -/
def changedByTitling : CharSet :=
  (changedByRaising.diff
      ⟨[(0x1C5, 0x1C5), (0x1C8, 0x1C8), (0x1CB, 0x1CB), (0x1F2, 0x1F2), (0x10D0, 0x10FA),
        (0x10FD, 0x10FF), (0x1F88, 0x1F8F), (0x1F98, 0x1F9F), (0x1FA8, 0x1FAF),
        (0x1FBC, 0x1FBC), (0x1FCC, 0x1FCC), (0x1FFC, 0x1FFC)]⟩).union
    ⟨[(0x1C4, 0x1C4), (0x1C7, 0x1C7), (0x1CA, 0x1CA), (0x1F1, 0x1F1)]⟩

/-- Characters that have another form in some case. -/
def changedByCasing : CharSet :=
  .unions [changedByLowering, changedByRaising, changedByTitling]

/-- Characters that case folding changes. -/
def changedByFolding : CharSet :=
  (changedByLowering.diff ⟨[(0x13A0, 0x13F5)]⟩).union (ofTable onlyFolded)

/-- Decimal digits. -/
def digits : CharSet := category "Nd"

/-- The characters of words: letters, marks, digits, connectors and joiners. -/
def wordChars : CharSet :=
  .unions [alphabetic, category "M", digits, category "Pc", ⟨[(0x200C, 0x200D)]⟩]

/-! ## Case folding -/

/-- Places sets of characters that differ in case only. -/
def placeOrbits (start : Nat) : List (List Char) → List (List Nat)
  | [] => []
  | word :: rest =>
    match (splitAll '.' word).map hexValue with
    | [] => placeOrbits start rest
    | first :: others =>
      ((start + first) :: others.map (start + first + ·)) :: placeOrbits (start + first) rest

/-- The sets of characters that differ in case only. -/
def orbits : List (List Nat) :=
  placeOrbits 0 (words foldingOrbits)

/-- The characters that differ from one of the set in case only. -/
def foldCase (s : CharSet) : CharSet :=
  let added := orbits.filter fun orbit => orbit.any s.containsCode
  .ofRanges (s.ranges ++ added.flatMap fun orbit => orbit.map fun n => (n, n))

end EventFlow.Text.Unicode
