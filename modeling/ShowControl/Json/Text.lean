/-
The text of a JSON value.

There is no blank between the parts, fields stand in the order of the value, doubles have the
fewest digits that read back, and of the characters only quote, backslash and those below U+0020
are escaped.  `emit` writes onto a reversed text, so long arrays need no stack; `chars` is what it
writes, and its equations say so part by part.
-/
import ShowControl.Json.Value
import ShowControl.Number.Shortest
import ShowControl.Text.Hex

namespace ShowControl

/-- Doubles are written plainly from 10^-5 up to but not including 10^16. -/
def JsonNumber.layout : Number.Layout := ⟨-5, 16⟩

/-- The text of a number. -/
def JsonNumber.chars : JsonNumber → List Char
  | .whole i _ => Number.intText i
  | .double x => JsonNumber.layout.write x

namespace Json

/-- The written form of one character of a string. -/
def escape (c : Char) : List Char :=
  if c == '"' then ['\\', '"']
  else if c == '\\' then ['\\', '\\']
  else if c.toNat < 0x20 then
    if c.toNat == 8 then ['\\', 'b']
    else if c.toNat == 9 then ['\\', 't']
    else if c.toNat == 10 then ['\\', 'n']
    else if c.toNat == 12 then ['\\', 'f']
    else if c.toNat == 13 then ['\\', 'r']
    else ['\\', 'u', '0', '0', Text.hexDigit (c.toNat / 16), Text.hexDigit (c.toNat % 16)]
  else [c]

/-- The text of a string, in quotes. -/
def quoted (s : List Char) : List Char := '"' :: (s.flatMap escape ++ ['"'])

mutual

/-- Writes a value onto a reversed text. -/
def emit : Json → List Char → List Char
  | .null, acc => 'l' :: 'l' :: 'u' :: 'n' :: acc
  | .bool true, acc => 'e' :: 'u' :: 'r' :: 't' :: acc
  | .bool false, acc => 'e' :: 's' :: 'l' :: 'a' :: 'f' :: acc
  | .number n, acc => n.chars.reverseAux acc
  | .string s, acc => (quoted s.toList).reverseAux acc
  | .array [], acc => ']' :: '[' :: acc
  | .array (x :: xs), acc => ']' :: emitItems xs (emit x ('[' :: acc))
  | .object [], acc => '}' :: '\x7b' :: acc
  | .object ((k, v) :: fs), acc =>
    '}' :: emitFields fs (emit v (':' :: (quoted k.toList).reverseAux ('\x7b' :: acc)))

/-- Writes the items after the first one, a comma before each. -/
def emitItems : List Json → List Char → List Char
  | [], acc => acc
  | x :: xs, acc => emitItems xs (emit x (',' :: acc))

/-- Writes the fields after the first one, a comma before each. -/
def emitFields : List (String × Json) → List Char → List Char
  | [], acc => acc
  | (k, v) :: fs, acc => emitFields fs (emit v (':' :: (quoted k.toList).reverseAux (',' :: acc)))

end

/-- The text of a value. -/
def chars (j : Json) : List Char := (emit j []).reverse

/-- The text of a value. -/
def text (j : Json) : String := String.ofList j.chars

end Json

end ShowControl
