/-!
# Blank characters

The blanks of this library are the characters with the Unicode property
`White_Space`.  Texts that people type in (row ids, webhook tokens, numbers in
payloads) are read after the blanks at both ends are removed.
-/

namespace EventFlow.Text

/-- Has the character the Unicode property `White_Space`? -/
def isBlank (c : Char) : Bool :=
  let n := c.toNat
  (9 ≤ n && n ≤ 13) || n == 32 || n == 133 || n == 160 || n == 5760 ||
    (8192 ≤ n && n ≤ 8202) || n == 8232 || n == 8233 || n == 8239 || n == 8287 || n == 12288

/-- The characters without the blanks in front. -/
def dropBlanks (cs : List Char) : List Char :=
  cs.dropWhile isBlank

/-- The characters without the blanks at both ends. -/
def trimChars (cs : List Char) : List Char :=
  (dropBlanks (dropBlanks cs).reverse).reverse

/-- The text without the blanks at both ends. -/
def trim (s : String) : String :=
  String.ofList (trimChars s.toList)

/-- A text of blanks only, the empty text among them. -/
def isAllBlank (s : String) : Bool :=
  s.toList.all isBlank

end EventFlow.Text
