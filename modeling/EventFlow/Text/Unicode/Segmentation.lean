import EventFlow.Text.Unicode.Property

/-!
# Classes for cutting texts

The classes of characters by which a text is cut into graphemes, words and
sentences.  A class is found by its long or short name, in lower case and without
separators.  Characters outside all classes of a kind have no class there.
-/

namespace EventFlow.Text.Unicode

/-- The characters that stand before others in one grapheme. -/
def prepended : CharSet :=
  (listed "prependedconcatenationmark").union
    ⟨[(0xD4E, 0xD4E), (0x111C2, 0x111C3), (0x113D1, 0x113D1), (0x1193F, 0x1193F),
      (0x11941, 0x11941), (0x11A3A, 0x11A3A), (0x11A84, 0x11A89), (0x11D46, 0x11D46),
      (0x11F02, 0x11F02)]⟩

/-- Format characters that neither join others nor tag a text. -/
def plainFormats : CharSet :=
  (category "Cf").diff ⟨[(0x200C, 0x200D), (0xE0020, 0xE007F)]⟩

/-- Marks with a width of their own that make a grapheme with what is before them. -/
def spacingMarks : CharSet :=
  (((category "Mc").diff graphemeExtend).diff
      ⟨[(0x102B, 0x102C), (0x1038, 0x1038), (0x1062, 0x1064), (0x1067, 0x106D),
        (0x1083, 0x1083), (0x1087, 0x108C), (0x108F, 0x108F), (0x109A, 0x109C),
        (0x1A61, 0x1A61), (0x1A63, 0x1A64), (0xAA7B, 0xAA7B), (0xAA7D, 0xAA7D),
        (0x11720, 0x11721)]⟩).union
    ⟨[(0xE33, 0xE33), (0xEB3, 0xEB3)]⟩

/-- Syllables without a final consonant: every twenty-eighth one. -/
def openSyllables : CharSet :=
  .ofRanges ((List.range 399).map fun k => (0xAC00 + 28 * k, 0xAC00 + 28 * k))

/-- Syllables with a final consonant. -/
def closedSyllables : CharSet :=
  (CharSet.mk [(0xAC00, 0xD7A3)]).diff openSyllables

/-- Characters that go on with a word or a sentence whatever is before them. -/
def extending : CharSet :=
  graphemeExtend.union (category "Mc")

/-- The class of characters by which a text is cut into graphemes. -/
def graphemeBreak? (name : String) : Option CharSet :=
  match name with
  | "cr" => some (.single '\r')
  | "lf" => some (.single '\n')
  | "control" | "cn" =>
    some ((CharSet.unions [category "Zl", category "Zp", category "Cc", plainFormats,
      (category "Cn").inter ignorable]).diff
        ((CharSet.ofChars ['\r', '\n']).union (listed "prependedconcatenationmark")))
  | "extend" | "ex" => some (graphemeExtend.union (listed "emojimodifier"))
  | "zwj" => some (.single '\u200d')
  | "regionalindicator" | "ri" => some (listed "regionalindicator")
  | "prepend" | "pp" => some prepended
  | "spacingmark" | "sm" => some spacingMarks
  | "l" => some ⟨[(0x1100, 0x115F), (0xA960, 0xA97C)]⟩
  | "v" => some ⟨[(0x1160, 0x11A7), (0xD7B0, 0xD7C6), (0x16D63, 0x16D63), (0x16D67, 0x16D6A)]⟩
  | "t" => some ⟨[(0x11A8, 0x11FF), (0xD7CB, 0xD7FB)]⟩
  | "lv" => some openSyllables
  | "lvt" => some closedSyllables
  | _ => none

/-- Digits, with the signs that enclose or part them. -/
def numeric : CharSet :=
  digits.union
    ⟨[(0x600, 0x605), (0x66B, 0x66B), (0x6DD, 0x6DD), (0x890, 0x891), (0x8E2, 0x8E2),
      (0x19DA, 0x19DA), (0x110BD, 0x110BD), (0x110CD, 0x110CD)]⟩

/-- Katakana, with the marks that are used with it. -/
def katakana : CharSet :=
  (script "Kana").union
    ⟨[(0x3031, 0x3035), (0x309B, 0x309C), (0x30A0, 0x30A0), (0x30FC, 0x30FC),
      (0xFF70, 0xFF70)]⟩

/-- Hebrew letters. -/
def hebrewLetters : CharSet :=
  (script "Hebr").inter (category "Lo")

/-- Letters of scripts that are written without blanks between words. -/
def lettersWithoutBlanks : CharSet :=
  ⟨[(0xE01, 0xE30), (0xE32, 0xE33), (0xE40, 0xE46), (0xE81, 0xE82), (0xE84, 0xE84),
    (0xE86, 0xE8A), (0xE8C, 0xEA3), (0xEA5, 0xEA5), (0xEA7, 0xEB0), (0xEB2, 0xEB3),
    (0xEBD, 0xEBD), (0xEC0, 0xEC4), (0xEC6, 0xEC6), (0xEDC, 0xEDF), (0x1000, 0x102A),
    (0x103F, 0x103F), (0x1050, 0x1055), (0x105A, 0x105D), (0x1061, 0x1061), (0x1065, 0x1066),
    (0x106E, 0x1070), (0x1075, 0x1081), (0x108E, 0x108E), (0x1780, 0x17B3), (0x17D7, 0x17D7),
    (0x17DC, 0x17DC), (0x1950, 0x196D), (0x1970, 0x1974), (0x1980, 0x19AB), (0x19B0, 0x19C9),
    (0x1A20, 0x1A54), (0x1AA7, 0x1AA7), (0xA9E0, 0xA9E4), (0xA9E6, 0xA9EF), (0xA9FA, 0xA9FE),
    (0xAA60, 0xAA76), (0xAA7A, 0xAA7A), (0xAA7E, 0xAAAF), (0xAAB1, 0xAAB1), (0xAAB5, 0xAAB6),
    (0xAAB9, 0xAABD), (0xAAC0, 0xAAC0), (0xAAC2, 0xAAC2), (0xAADB, 0xAADD),
    (0x11700, 0x1171A), (0x11740, 0x11746)]⟩

/-- Signs that belong to words though they are no letters. -/
def signsOfWords : CharSet :=
  ⟨[(0x2C2, 0x2C5), (0x2D2, 0x2D7), (0x2DE, 0x2DF), (0x2E5, 0x2EB), (0x2ED, 0x2ED),
    (0x2EF, 0x2FF), (0x55A, 0x55C), (0x55E, 0x55E), (0x58A, 0x58A), (0x5F3, 0x5F3),
    (0x70F, 0x70F), (0xA708, 0xA716), (0xA720, 0xA721), (0xA789, 0xA78A), (0xAB5B, 0xAB5B)]⟩

/-- The letters of words. -/
def wordLetters : CharSet :=
  (alphabetic.diff (CharSet.unions [listed "ideographic", katakana, script "Hira", extending,
    hebrewLetters, lettersWithoutBlanks])).union signsOfWords

/-- The class of characters by which a text is cut into words. -/
def wordBreak? (name : String) : Option CharSet :=
  match name with
  | "cr" => some (.single '\r')
  | "lf" => some (.single '\n')
  | "newline" | "nl" => some ⟨[(0xB, 0xC), (0x85, 0x85), (0x2028, 0x2029)]⟩
  | "doublequote" | "dq" => some (.single '"')
  | "singlequote" | "sq" => some (.single '\'')
  | "hebrewletter" | "hl" => some hebrewLetters
  | "aletter" | "le" => some wordLetters
  | "katakana" | "ka" => some katakana
  | "numeric" | "nu" => some numeric
  | "midletter" | "ml" =>
    some ⟨[(0x3A, 0x3A), (0xB7, 0xB7), (0x387, 0x387), (0x55F, 0x55F), (0x5F4, 0x5F4),
      (0x2027, 0x2027), (0xFE13, 0xFE13), (0xFE55, 0xFE55), (0xFF1A, 0xFF1A)]⟩
  | "midnum" | "mn" =>
    some ⟨[(0x2C, 0x2C), (0x3B, 0x3B), (0x37E, 0x37E), (0x589, 0x589), (0x60C, 0x60D),
      (0x66C, 0x66C), (0x7F8, 0x7F8), (0x2044, 0x2044), (0xFE50, 0xFE50), (0xFE54, 0xFE54),
      (0xFF0C, 0xFF0C), (0xFF1B, 0xFF1B)]⟩
  | "midnumlet" | "mb" =>
    some ⟨[(0x2E, 0x2E), (0x2018, 0x2019), (0x2024, 0x2024), (0xFE52, 0xFE52),
      (0xFF07, 0xFF07), (0xFF0E, 0xFF0E)]⟩
  | "extendnumlet" | "ex" => some ((category "Pc").union ⟨[(0x202F, 0x202F)]⟩)
  | "extend" =>
    some ((extending.union (listed "emojimodifier")).diff (.single '\u200d'))
  | "format" | "fo" =>
    some (plainFormats.diff ((CharSet.single '\u200b').union
      (listed "prependedconcatenationmark")))
  | "regionalindicator" | "ri" => some (listed "regionalindicator")
  | "wsegspace" =>
    some ⟨[(0x20, 0x20), (0x1680, 0x1680), (0x2000, 0x2006), (0x2008, 0x200A),
      (0x205F, 0x205F), (0x3000, 0x3000)]⟩
  | "zwj" => some (.single '\u200d')
  | _ => none

/-- Points that may end a sentence. -/
def sentencePoints : CharSet :=
  ⟨[(0x2E, 0x2E), (0x2024, 0x2024), (0xFE52, 0xFE52), (0xFF0E, 0xFF0E)]⟩

/-- Capital and small letters by which sentences are cut: Georgian letters, which
do not start sentences with a capital, are neither. -/
def sentenceUpper : CharSet :=
  (uppercase.union (category "Lt")).diff ⟨[(0x1C90, 0x1CBA), (0x1CBD, 0x1CBF)]⟩

/-- The small letters by which sentences are cut. -/
def sentenceLower : CharSet :=
  (lowercase.diff graphemeExtend).diff ⟨[(0x10D0, 0x10FA), (0x10FD, 0x10FF)]⟩

/-- The class of characters by which a text is cut into sentences. -/
def sentenceBreak? (name : String) : Option CharSet :=
  match name with
  | "cr" => some (.single '\r')
  | "lf" => some (.single '\n')
  | "sep" | "se" => some ⟨[(0x85, 0x85), (0x2028, 0x2029)]⟩
  | "sp" =>
    some (blanks.diff ⟨[(0xA, 0xA), (0xD, 0xD), (0x85, 0x85), (0x2028, 0x2029)]⟩)
  | "lower" | "lo" => some sentenceLower
  | "upper" | "up" => some sentenceUpper
  | "oletter" | "le" =>
    some ((alphabetic.union (.single '\u05f3')).diff
      (CharSet.unions [sentenceLower, sentenceUpper, extending]))
  | "numeric" | "nu" => some (numeric.union (.single '\u066c'))
  | "aterm" | "at" => some sentencePoints
  | "sterm" | "st" => some ((listed "sentenceterminal").diff sentencePoints)
  | "scontinue" | "sc" =>
    some ⟨[(0x2C, 0x2D), (0x3A, 0x3B), (0x37E, 0x37E), (0x55D, 0x55D), (0x60C, 0x60D),
      (0x7F8, 0x7F8), (0x1802, 0x1802), (0x1808, 0x1808), (0x2013, 0x2014), (0x3001, 0x3001),
      (0xFE10, 0xFE11), (0xFE13, 0xFE14), (0xFE31, 0xFE32), (0xFE50, 0xFE51),
      (0xFE54, 0xFE55), (0xFE58, 0xFE58), (0xFE63, 0xFE63), (0xFF0C, 0xFF0D),
      (0xFF1A, 0xFF1B), (0xFF64, 0xFF64)]⟩
  | "close" | "cl" =>
    some ((CharSet.unions [category "Ps", category "Pe", category "Pi", category "Pf",
      (listed "quotationmark").diff ⟨[(0xFF02, 0xFF02), (0xFF07, 0xFF07)]⟩,
      ⟨[(0x275B, 0x2760), (0x2E00, 0x2E01), (0x2E06, 0x2E08), (0x2E0B, 0x2E0B),
        (0x1F676, 0x1F678)]⟩]))
  | "extend" | "ex" => some (extending.union (.single '\u200d'))
  | "format" | "fo" =>
    some (plainFormats.diff
      ⟨[(0x600, 0x605), (0x6DD, 0x6DD), (0x890, 0x891), (0x8E2, 0x8E2), (0x110BD, 0x110BD),
        (0x110CD, 0x110CD)]⟩)
  | _ => none

end EventFlow.Text.Unicode
