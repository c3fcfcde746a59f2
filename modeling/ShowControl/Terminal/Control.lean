/-
Control sequences of terminals.

A terminal takes some bytes as commands: single control characters, and sequences that begin with an
escape character and end in a way that depends on their kind.  `printable` is what is left of a text
without them.  Reading goes back and forth between two phases: while a command is read, bytes only
move its state, until one comes that can be shown; from there on everything that can be shown
outside of commands is shown.
-/
import ShowControl.Text.Utf8

namespace ShowControl.Terminal

/-- What a byte is read as. -/
inductive State where
  /-- A byte outside of commands. -/
  | ground
  /-- A byte after an escape character. -/
  | escape
  /-- A byte of an escape sequence that has more than a letter. -/
  | escapeLong
  /-- A byte of a sequence with parameters, up to its letter. -/
  | parameters
  /-- A byte of a string for a device, up to the letter that says what the string is. -/
  | device
  /-- A byte of a string that is not shown. -/
  | hidden
  /-- A byte of a string for the system. -/
  | system
deriving DecidableEq

/-- Whether a byte is a control character that moves the place of output; these are shown. -/
def isSpacing (b : UInt8) : Bool := b == 0x09 || b == 0x0A || b == 0x0C || b == 0x0D

namespace State

/-- The state after a byte. -/
def next (s : State) (b : UInt8) : State :=
  if b == 0x1B then escape
  else if b == 0x18 || b == 0x1A then ground
  else
    match s with
    | ground => ground
    | escape =>
      if b < 0x20 || 0x7F ≤ b then escape
      else if b < 0x30 then escapeLong
      else if b == 0x50 then device
      else if b == 0x5B then parameters
      else if b == 0x5D then system
      else if b == 0x58 || b == 0x5E || b == 0x5F then hidden
      else ground
    | escapeLong => if 0x30 ≤ b && b < 0x7F then ground else escapeLong
    | parameters => if 0x40 ≤ b && b < 0x7F then ground else parameters
    | device => if 0x40 ≤ b && b < 0x7F then hidden else device
    | hidden => if b == 0x9C then ground else hidden
    | system => if b == 0x07 then ground else system

/-- Whether a byte is shown in a state: characters outside of commands, and spacing inside of short
commands too. -/
def shows (s : State) (b : UInt8) : Bool :=
  match s with
  | ground => isSpacing b || (0x20 ≤ b && b < 0x7F) || (0xC2 ≤ b && b ≤ 0xF4)
  | escape | escapeLong | parameters => isSpacing b
  | device | hidden | system => false

end State

/-- How many more bytes a character has after its first one. -/
def moreBytes (b : UInt8) : Nat :=
  if b < 0xC2 then 0
  else if b < 0xE0 then 1
  else if b < 0xF0 then 2
  else 3

/-- A reader of a text for a terminal. -/
structure Reader where
  state : State := .ground
  /-- Whether the byte before was shown. -/
  showing : Bool := false
  /-- How many more bytes the last character has. -/
  more : Nat := 0
  /-- The bytes that are shown, the latest first. -/
  shown : List UInt8 := []

namespace Reader

/-- The reader after a byte that is shown. -/
def push (r : Reader) (state : State) (b : UInt8) : Reader :=
  ⟨state, true, moreBytes b, b :: r.shown⟩

/-- The reader after a byte of a command, or the first one after commands. -/
def stepHidden (r : Reader) (b : UInt8) : Reader :=
  if r.state.shows b then r.push (r.state.next b) b
  else { r with state := r.state.next b, showing := false }

/-- The reader after a byte. -/
def step (r : Reader) (b : UInt8) : Reader :=
  match r.more with
  | more + 1 => { r with more, shown := b :: r.shown }
  | 0 =>
    if r.showing && State.ground.shows b then r.push (if b < 0x80 then r.state else .ground) b
    else r.stepHidden b

end Reader

/-- What is left of a text without its commands. -/
def printable (s : List Char) : List Char :=
  let r := (Text.Utf8.encode s).foldl Reader.step {}
  Text.Utf8.decodeLossy r.shown.reverse

end ShowControl.Terminal
