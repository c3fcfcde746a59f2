/-
Handing one universe of levels to a lighting bridge.

A handoff names a universe, its channel levels from 0 to 255 and, for a single host, where to send
them; without a destination it goes to everyone.  `ofLevels` makes one from raw numbers: a level is
rounded, a half away from zero, and moved into range, and there are always 512 of them.  The
written form is a JSON object; it is read back without a look at ranges or lengths, members of
other names do not count, and an array of the three parts is read as well.
-/
import ShowControl.Json.Tree
import ShowControl.Json.Text

namespace ShowControl

/-- The levels of one universe, on their way to the lighting bridge. -/
structure Handoff where
  /-- The number of the universe. -/
  universeNumber : UInt16
  levels : List UInt8
  /-- The one host to send to; everyone, if there is none. -/
  destination : Option String
deriving DecidableEq

namespace Handoff

/-- The channels of a universe. -/
def channels : Nat := 512

/-- The universes that a handoff can be made for. -/
def universeNumber? (i : Int) : Option UInt16 :=
  if 1 ≤ i ∧ i ≤ 63999 then some i.toNat.toUInt16 else none

/-- The level nearest to a number: rounded, a half away from zero, and moved into range.  What is no
number is dark. -/
def level : Number.Extended → UInt8
  | .nan | .infinite true => 0
  | .infinite false => 255
  | .finite x => if x.negative then 0 else (min x.wholeMagnitude 255).toUInt8

/-- Exactly `n` levels: those given, cut or filled up with dark ones. -/
def fitted (n : Nat) (levels : List UInt8) : List UInt8 :=
  levels.take n ++ List.replicate (n - levels.length) 0

/-- The handoff of raw levels, for a universe that exists. -/
def ofLevels (universeNumber : Int) (levels : List Number.Extended)
    (destination : Option String) : Option Handoff :=
  (universeNumber? universeNumber).map fun n =>
    ⟨n, fitted channels (levels.map level), destination⟩

/-- Whether a handoff is meant for a single host. -/
def isUnicast (h : Handoff) : Bool := h.destination.isSome

/-- The written form of a handoff. -/
def json (h : Handoff) : Json :=
  .object <|
    [("universe", .nat h.universeNumber.toNat (by have := h.universeNumber.toNat_lt; omega)),
      ("levels", .array (h.levels.map fun l => .nat l.toNat (by have := l.toNat_lt; omega)))] ++
      (h.destination.map fun d => ("dest", Json.string d)).toList

/-! ### Reading -/

/-- The text of a written string, if the document is one. -/
def text? : Json.Tree → Option String
  | .string pieces => Json.Tree.piecesText? pieces
  | _ => none

/-- The universe that a document holds. -/
def readUniverse? (t : Json.Tree) : Option UInt16 := (t.nat? 65535).map Nat.toUInt16

/-- The levels that a document holds. -/
def readLevels? : Json.Tree → Option (List UInt8)
  | .array items => items.mapM fun t => (t.nat? 255).map Nat.toUInt8
  | _ => none

/-- The destination that a document holds, which may be null. -/
def readDestination? : Json.Tree → Option (Option String)
  | .null => some none
  | t => (text? t).map some

/-- The handoff that a document holds: an object with a universe, levels and perhaps a destination,
each at most once, or an array of the three. -/
def ofTree? : Json.Tree → Option Handoff
  | .array [u, ls, d] => do
    return ⟨← readUniverse? u, ← readLevels? ls, ← readDestination? d⟩
  | .object members => do
    let members ← (Json.Tree.object members).members?
    let u ← ← Json.Tree.unique? members "universe"
    let ls ← ← Json.Tree.unique? members "levels"
    let destination ←
      match ← Json.Tree.unique? members "dest" with
      | some d => readDestination? d
      | none => some none
    return ⟨← readUniverse? u, ← readLevels? ls, destination⟩
  | _ => none

/-- The handoff that a text holds. -/
def read? (s : List Char) : Option Handoff := (Json.Tree.readAll? s).bind ofTree?

end Handoff

end ShowControl
