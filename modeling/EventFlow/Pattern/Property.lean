import EventFlow.Text.Unicode.Segmentation

/-!
# Classes of characters by name

Patterns name classes of characters in three ways: a letter behind a backslash,
a name between colons, and the name of a character property, alone or with a
value.
-/

namespace EventFlow.Pattern

open EventFlow.Text

/-! ## Letters -/

/-- Decimal digits. -/
def digitClass (unicode : Bool) : CharSet :=
  if unicode then Unicode.digits else ⟨[(48, 57)]⟩

/-- Blanks. -/
def spaceClass (unicode : Bool) : CharSet :=
  if unicode then Unicode.blanks else ⟨[(9, 13), (32, 32)]⟩

/-- The characters of words. -/
def wordClass (unicode : Bool) : CharSet :=
  if unicode then Unicode.wordChars else ⟨[(48, 57), (65, 90), (95, 95), (97, 122)]⟩

/-! ## Names between colons -/

/-- The ASCII characters of a named class. -/
def asciiClass? (name : String) : Option CharSet :=
  match name with
  | "alnum" => some ⟨[(48, 57), (65, 90), (97, 122)]⟩
  | "alpha" => some ⟨[(65, 90), (97, 122)]⟩
  | "ascii" => some ⟨[(0, 127)]⟩
  | "blank" => some ⟨[(9, 9), (32, 32)]⟩
  | "cntrl" => some ⟨[(0, 31), (127, 127)]⟩
  | "digit" => some ⟨[(48, 57)]⟩
  | "graph" => some ⟨[(33, 126)]⟩
  | "lower" => some ⟨[(97, 122)]⟩
  | "print" => some ⟨[(32, 126)]⟩
  | "punct" => some ⟨[(33, 47), (58, 64), (91, 96), (123, 126)]⟩
  | "space" => some ⟨[(9, 13), (32, 32)]⟩
  | "upper" => some ⟨[(65, 90)]⟩
  | "word" => some ⟨[(48, 57), (65, 90), (95, 95), (97, 122)]⟩
  | "xdigit" => some ⟨[(48, 57), (65, 70), (97, 102)]⟩
  | _ => none

/-! ## Properties -/

/-- The name of a property as it is compared: in lower case, without blanks,
hyphens and underscores, and without a leading `is`.  What is left of `isc` is
that name itself. -/
def looseName (name : String) : String :=
  let cs := name.toList
  let marked := (cs.take 2).map Char.toLower == ['i', 's']
  let kept := ((if marked then cs.drop 2 else cs).filter fun c =>
    c != ' ' && c != '-' && c != '_' && c.toNat < 128).map Char.toLower
  if marked ∧ kept = ['c'] then "isc" else String.ofList kept

/-- The long and short names of the general categories, with the short name as
it stands in the table. -/
def categoryNames : List (String × String) :=
  [("l", "L"), ("letter", "L"), ("lu", "Lu"), ("uppercaseletter", "Lu"), ("ll", "Ll"),
    ("lowercaseletter", "Ll"), ("lt", "Lt"), ("titlecaseletter", "Lt"), ("lm", "Lm"),
    ("modifierletter", "Lm"), ("lo", "Lo"), ("otherletter", "Lo"), ("m", "M"), ("mark", "M"),
    ("combiningmark", "M"), ("mn", "Mn"), ("nonspacingmark", "Mn"), ("mc", "Mc"),
    ("spacingmark", "Mc"), ("me", "Me"), ("enclosingmark", "Me"), ("n", "N"), ("number", "N"),
    ("nd", "Nd"), ("decimalnumber", "Nd"), ("digit", "Nd"), ("nl", "Nl"), ("letternumber", "Nl"),
    ("no", "No"), ("othernumber", "No"), ("p", "P"), ("punctuation", "P"), ("punct", "P"),
    ("pc", "Pc"), ("connectorpunctuation", "Pc"), ("pd", "Pd"), ("dashpunctuation", "Pd"),
    ("ps", "Ps"), ("openpunctuation", "Ps"), ("pe", "Pe"), ("closepunctuation", "Pe"),
    ("pi", "Pi"), ("initialpunctuation", "Pi"), ("pf", "Pf"), ("finalpunctuation", "Pf"),
    ("po", "Po"), ("otherpunctuation", "Po"), ("s", "S"), ("symbol", "S"), ("sm", "Sm"),
    ("mathsymbol", "Sm"), ("sc", "Sc"), ("currencysymbol", "Sc"), ("sk", "Sk"),
    ("modifiersymbol", "Sk"), ("so", "So"), ("othersymbol", "So"), ("z", "Z"),
    ("separator", "Z"), ("zs", "Zs"), ("spaceseparator", "Zs"), ("zl", "Zl"),
    ("lineseparator", "Zl"), ("zp", "Zp"), ("paragraphseparator", "Zp"), ("c", "C"),
    ("other", "C"), ("cc", "Cc"), ("control", "Cc"), ("cntrl", "Cc"), ("cf", "Cf"),
    ("format", "Cf"), ("co", "Co"), ("privateuse", "Co"), ("cn", "Cn"), ("unassigned", "Cn")]

/-- The characters of a general category. -/
def categoryClass? (loose : String) : Option CharSet :=
  if loose = "any" then some .all
  else if loose = "assigned" then some (Unicode.category "Cn").complement
  else if loose = "ascii" then some .ascii
  else if loose = "lc" ∨ loose = "casedletter" then some Unicode.casedLetters
  else (categoryNames.lookup loose).map Unicode.category

/-- The characters of a property that a character has or has not. -/
def binaryClass? (loose : String) : Option CharSet :=
  match loose with
  | "alphabetic" | "alpha" => some Unicode.alphabetic
  | "uppercase" | "upper" => some Unicode.uppercase
  | "lowercase" | "lower" => some Unicode.lowercase
  | "cased" => some Unicode.cased
  | "caseignorable" | "ci" => some Unicode.caseIgnorable
  | "changeswhenlowercased" | "cwl" => some Unicode.changedByLowering
  | "changeswhenuppercased" | "cwu" => some Unicode.changedByRaising
  | "changeswhentitlecased" | "cwt" => some Unicode.changedByTitling
  | "changeswhencasemapped" | "cwcm" => some Unicode.changedByCasing
  | "changeswhencasefolded" | "cwcf" => some Unicode.changedByFolding
  | "whitespace" | "wspace" | "space" => some Unicode.blanks
  | "patternwhitespace" | "patws" => some Unicode.patternBlanks
  | "math" => some Unicode.math
  | "defaultignorablecodepoint" | "di" => some Unicode.ignorable
  | "graphemeextend" | "grext" => some Unicode.graphemeExtend
  | "graphemebase" | "grbase" => some Unicode.graphemeBase
  | "asciihexdigit" | "ahex" => some ⟨[(48, 57), (65, 70), (97, 102)]⟩
  | "hexdigit" | "hex" =>
    some ⟨[(48, 57), (65, 70), (97, 102), (0xFF10, 0xFF19), (0xFF21, 0xFF26), (0xFF41, 0xFF46)]⟩
  | "joincontrol" | "joinc" => some ⟨[(0x200C, 0x200D)]⟩
  | "idstart" | "ids" => some Unicode.idStart
  | "idcontinue" | "idc" => some Unicode.idContinue
  | "xidstart" | "xids" => some Unicode.stableIdStart
  | "xidcontinue" | "xidc" => some Unicode.stableIdContinue
  | "otheralphabetic" | "oalpha" => some (Unicode.ofTable Unicode.otherAlphabetic)
  | "otheruppercase" | "oupper" => some (Unicode.ofTable Unicode.otherUppercase)
  | "otherlowercase" | "olower" => some (Unicode.ofTable Unicode.otherLowercase)
  | "othermath" | "omath" => some (Unicode.ofTable Unicode.otherMath)
  | "othergraphemeextend" | "ogrext" => some (Unicode.ofTable Unicode.otherGraphemeExtend)
  | "otherdefaultignorablecodepoint" | "odi" => some (Unicode.ofTable Unicode.otherIgnorable)
  | "otheridstart" | "oids" => some Unicode.otherIdStart
  | "otheridcontinue" | "oidc" => some Unicode.otherIdContinue
  | _ => Unicode.listed? loose

/-- The four letters of a script, by its name or by them. -/
def scriptLetters? (loose : String) : Option String :=
  (Unicode.scriptNames.find? fun (name, letters) =>
    name == loose || letters.toList.map Char.toLower == loose.toList).map (·.2)

/-- The characters that came with a version of the standard or before, by its
number with the point in it, or behind a letter without the point. -/
def ageClass? (loose : String) : Option CharSet :=
  let version? := Unicode.versions.find? fun (version, _) =>
    version == loose || 'v' :: version.toList.filter (· != '.') == loose.toList
  version?.bind fun (version, _) => Unicode.age? version

/-- The class of a property that is named alone. -/
def propertyClass? (name : String) : Option CharSet :=
  let loose := looseName name
  binaryClass? loose <|> categoryClass? loose <|> (scriptLetters? loose).map Unicode.script

/-- The class of a property that is named with a value. -/
def propertyValueClass? (property value : String) : Option CharSet :=
  let loose := looseName value
  match looseName property with
  | "generalcategory" | "gc" => categoryClass? loose
  | "script" | "sc" => (scriptLetters? loose).map Unicode.script
  | "scriptextensions" | "scx" => (scriptLetters? loose).map Unicode.scriptExtension
  | "age" => ageClass? loose
  | "graphemeclusterbreak" | "gcb" => Unicode.graphemeBreak? loose
  | "wordbreak" | "wb" => Unicode.wordBreak? loose
  | "sentencebreak" | "sb" => Unicode.sentenceBreak? loose
  | _ => none

end EventFlow.Pattern
