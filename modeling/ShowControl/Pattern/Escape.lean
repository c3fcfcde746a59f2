/-
Single characters of a pattern.

A pattern describes texts: characters stand for themselves unless they are operators, and a
backslash gives a character another meaning.  Modes, which flags in a group switch, change what
some of them mean and which of them are allowed.  No table of the properties of characters is at
hand, so whatever needs one is refused: shorthands and letters without regard to case, in Unicode
mode.  Without Unicode mode a pattern may still match characters only, never the bytes inside them.
-/
import ShowControl.Text.Blank
import ShowControl.Text.Hex

namespace ShowControl.Pattern

/-- The modes of a pattern that matter to whether it is well formed. -/
structure Modes where
  /-- Whether letters match in either case. -/
  ignoreCase : Bool := false
  /-- Whether classes are about characters, not about bytes. -/
  unicode : Bool := true
  /-- Whether blanks and comments may stand between the parts. -/
  spaced : Bool := false
deriving DecidableEq

namespace Modes

/-- The letters of all flags. -/
def letters : List Char := ['i', 'm', 's', 'U', 'u', 'R', 'x']

/-- The modes after flags: those before a dash are switched on, those after it off. -/
def switch (m : Modes) (flags : List Char) : Modes :=
  let (on, off) := flags.span (· != '-')
  let value (letter : Char) (before : Bool) : Bool :=
    on.contains letter || (before && !off.contains letter)
  ⟨value 'i' m.ignoreCase, value 'u' m.unicode, value 'x' m.spaced⟩

/-- Whether matching a character would need the cases of all letters. -/
def needsCases (m : Modes) : Bool := m.ignoreCase && m.unicode

end Modes

/-! ### Blanks -/

/-- A text without the blanks and comments at its front; a comment goes from a number sign to the
end of the line. -/
def skipSpace (inComment : Bool) : List Char → List Char
  | [] => []
  | c :: r =>
    if inComment then skipSpace (c != '\n') r
    else if Text.isBlank c then skipSpace false r
    else if c == '#' then skipSpace true r
    else c :: r

/-- The next part of a pattern. -/
def Modes.skip (m : Modes) (s : List Char) : List Char :=
  if m.spaced then skipSpace false s else s

/-! ### Symbols -/

/-- What a character of a pattern, or a backslash with what belongs to it, means. -/
inductive Symbol where
  /-- The character itself; `isByte` if it was written as a byte. -/
  | literal (c : Char) (isByte : Bool)
  /-- A class that has a letter of its own, or what is outside of it. -/
  | shorthand (negated : Bool)
  /-- An end of the text. -/
  | anchor
  /-- A place between characters that depends on words. -/
  | wordBoundary
deriving DecidableEq

/-- The characters that have a letter of their own. -/
def controls : List (Char × Char) :=
  [('a', '\x07'), ('f', '\x0c'), ('t', '\t'), ('n', '\n'), ('r', '\r'), ('v', '\x0b')]

/-- Reads that many hexadecimal digits onto `n`. -/
def readHex? (m : Modes) : (count : Nat) → (n : Nat) → List Char → Option (Nat × List Char)
  | 0, n, s => some (n, s)
  | count + 1, n, s =>
    match m.skip s with
    | c :: r => (Text.hexValue? c).bind fun digit => readHex? m count (16 * n + digit) r
    | [] => none

/-- Reads a character that is written as its number, in that many digits. -/
def readNumbered? (m : Modes) (count : Nat) (s : List Char) : Option (Symbol × List Char) := do
  let (n, r) ← readHex? m count 0 s
  if h : n.isValidChar then some (.literal (Char.ofNatAux n h) (count = 2), r) else none

/-- Reads what follows a backslash.  Digits mean nothing, and neither do other letters and
characters beyond ASCII; any other character stands for itself. -/
def readEscape? (m : Modes) : List Char → Option (Symbol × List Char)
  | [] => none
  | c :: r =>
    if c == 'x' then readNumbered? m 2 r
    else if c == 'u' then readNumbered? m 4 r
    else if c == 'U' then readNumbered? m 8 r
    else if "dsw".toList.contains c then some (.shorthand false, r)
    else if "DSW".toList.contains c then some (.shorthand true, r)
    else if "Az".toList.contains c then some (.anchor, r)
    else if "bB<>".toList.contains c then some (.wordBoundary, r)
    else
      match controls.lookup c with
      | some control => some (.literal control false, r)
      | none => if c.toNat < 0x80 && !c.isAlphanum then some (.literal c false, r) else none

/-- Reads a symbol that is no operator. -/
def readSymbol? (m : Modes) : List Char → Option (Symbol × List Char)
  | [] => none
  | '\\' :: r => readEscape? m r
  | c :: r => some (.literal c false, r)

/-- Whether a symbol may stand where it is, outside of classes. -/
def Symbol.isAllowed (m : Modes) : Symbol → Bool
  | literal c isByte => !m.needsCases && (m.unicode || !isByte || c.toNat < 0x80)
  | shorthand negated => !m.unicode && !negated
  | anchor => true
  | wordBoundary => true

end ShowControl.Pattern
