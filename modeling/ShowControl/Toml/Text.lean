/-
TOML strings.

A string is written in double quotes with escapes or in single quotes as it is; three quotes at
both ends make one that runs over several lines.  The readers here go on after the opening quotes,
take one character at a time, and return the text with what follows the closing quotes.  Lines end
in a line feed alone.
-/
import ShowControl.Text.Hex

namespace ShowControl.Toml

/-- The characters that can stand for themselves: no control character but the tab. -/
def isPrintable (c : Char) : Bool := c == '\t' || (0x20 ≤ c.toNat && c.toNat != 0x7F)

/-- The character of a code point. -/
def codePoint? (n : Nat) : Option Char :=
  if h : n.isValidChar then some (Char.ofNatAux n h) else none

/-- The character of a one-letter escape. -/
def letterEscape? : Char → Option Char
  | '"' => some '"'
  | '\\' => some '\\'
  | 'b' => some '\x08'
  | 'f' => some '\x0c'
  | 'n' => some '\n'
  | 'r' => some '\r'
  | 't' => some '\t'
  | _ => none

/-- The end of a string over several lines, at the front of a text: up to two quotes may stand
before the three that end it.  The result is what still belongs to the string and what follows
it. -/
def closing? (quote : Char) : List Char → Option (List Char × List Char)
  | a :: b :: c :: r =>
    if a == quote && b == quote && c == quote then
      match r with
      | d :: e :: r' =>
        if d == quote && e == quote then some ([quote, quote], r')
        else if d == quote then some ([quote], e :: r')
        else some ([], r)
      | [d] => if d == quote then some ([quote], []) else some ([], r)
      | [] => some ([], [])
    else none
  | _ => none

/-- The end of a string at the front of a text. -/
def stringEnd? (lines : Bool) (quote : Char) (s : List Char) :
    Option (List Char × List Char) :=
  if lines then closing? quote s
  else
    match s with
    | c :: r => if c == quote then some ([], r) else none
    | [] => none

/-- Whether a character can stand for itself in a string. -/
def isPlain (lines : Bool) (c : Char) : Bool := isPrintable c || (lines && c == '\n')

/-- Where a reader of a string with escapes stands. -/
inductive Place where
  /-- Among the characters. -/
  | among
  /-- After a backslash. -/
  | escape
  /-- In the digits of a code point: how many are to come after the next one, and the number so
  far. -/
  | code (left n : Nat)
  /-- After a backslash that has to end its line. -/
  | ending
  /-- After the end of such a line; blanks and line breaks do not count. -/
  | skipping

/-- A string in double quotes. -/
def readBasic? (lines : Bool) :
    Place → List Char → List Char → Option (List Char × List Char)
  | _, [], _ => none
  | .code left n, c :: r, acc =>
    match Text.hexValue? c, left with
    | none, _ => none
    | some d, 0 =>
      match codePoint? (16 * n + d) with
      | some c => readBasic? lines .among r (c :: acc)
      | none => none
    | some d, left + 1 => readBasic? lines (.code left (16 * n + d)) r acc
  | .escape, c :: r, acc =>
    if c == 'u' then readBasic? lines (.code 3 0) r acc
    else if c == 'U' then readBasic? lines (.code 7 0) r acc
    else if lines && (c == ' ' || c == '\t') then readBasic? lines .ending r acc
    else if lines && c == '\n' then readBasic? lines .skipping r acc
    else
      match letterEscape? c with
      | some c => readBasic? lines .among r (c :: acc)
      | none => none
  | .ending, c :: r, acc =>
    if c == ' ' || c == '\t' then readBasic? lines .ending r acc
    else if c == '\n' then readBasic? lines .skipping r acc
    else none
  | place, c :: r, acc =>
    match place, c == ' ' || c == '\t' || c == '\n' with
    | .skipping, true => readBasic? lines .skipping r acc
    | _, _ =>
      match stringEnd? lines '"' (c :: r) with
      | some (quotes, r) => some ((quotes ++ acc).reverse, r)
      | none =>
        if c == '\\' then readBasic? lines .escape r acc
        else if isPlain lines c then readBasic? lines .among r (c :: acc)
        else none

/-- A string in single quotes. -/
def readLiteral? (lines : Bool) : List Char → List Char → Option (List Char × List Char)
  | [], _ => none
  | c :: r, acc =>
    match stringEnd? lines '\'' (c :: r) with
    | some (quotes, r) => some ((quotes ++ acc).reverse, r)
    | none => if isPlain lines c then readLiteral? lines r (c :: acc) else none

/-- The text after a line break at its front, which does not count. -/
def skipFirstBreak : List Char → List Char
  | '\n' :: r => r
  | s => s

/-- The string at the front of a text, in any of its forms. -/
def readText? : List Char → Option (List Char × List Char)
  | '"' :: '"' :: '"' :: r => readBasic? true .among (skipFirstBreak r) []
  | '"' :: r => readBasic? false .among r []
  | '\'' :: '\'' :: '\'' :: r => readLiteral? true (skipFirstBreak r) []
  | '\'' :: r => readLiteral? false r []
  | _ => none

end ShowControl.Toml
