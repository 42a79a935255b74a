import EventFlow.Json.Printer

/-!
# JSON text in ASCII

Outside of ASCII a JSON text has characters only in its strings.  There they may
stand as escapes of their UTF-16 units, so that the text is pure ASCII.
-/

namespace EventFlow.Json

/-- The escape of a UTF-16 unit. -/
def unitEscape (n : Nat) : List Char :=
  '\\' :: 'u' :: hexDigits 4 n

/-- A character, escaped unless it is ASCII. -/
def asciiChar (c : Char) : List Char :=
  if c.toNat < 0x80 then [c]
  else if c.toNat < 0x10000 then unitEscape c.toNat
  else
    let offset := c.toNat - 0x10000
    unitEscape (0xD800 + offset / 0x400) ++ unitEscape (0xDC00 + offset % 0x400)

/-- The compact text of a value, in ASCII. -/
def renderAscii (value : Json) : String :=
  String.ofList (value.render.toList.flatMap asciiChar)

end EventFlow.Json
