/-
JSON documents as bytes.

The grammar of JSON needs no characters beyond ASCII, so a document can be read with a character for
each byte.  Its strings are decoded when they are looked at (`Tree.decoded?`), and a string that
nobody looks at need not be well formed.
-/
import ShowControl.Json.Tree
import ShowControl.Text.Utf8

namespace ShowControl.Json.Tree

/-- The document that some bytes are, with a character for each byte. -/
def readBytes? (bytes : List UInt8) : Option Tree :=
  readAll? (bytes.map fun b => Char.ofNat b.toNat)

/-- The characters of a run of bytes, onto the pieces found already; both have the latest first. -/
def decodeRun? (run : List UInt8) (acc : List Piece) : Option (List Piece) :=
  (Text.Utf8.decode? run.reverse).map fun s => (s.map Piece.plain).reverseAux acc

/-- The pieces of a written string whose characters are bytes: the bytes between code units are
decoded, those before the next unit being held in `run`. -/
def decodePieces? : List Piece → List UInt8 → List Piece → Option (List Piece)
  | [], run, acc => (decodeRun? run acc).map List.reverse
  | .plain c :: r, run, acc => decodePieces? r (c.toNat.toUInt8 :: run) acc
  | .unit n :: r, run, acc =>
    match decodeRun? run acc with
    | some acc => decodePieces? r [] (.unit n :: acc)
    | none => none

mutual

/-- A document with its strings decoded. -/
def decoded? : Tree → Option Tree
  | .null => some .null
  | .bool b => some (.bool b)
  | .number isWhole d => some (.number isWhole d)
  | .string pieces => (decodePieces? pieces [] []).map .string
  | .array items => (decodedItems? items []).map .array
  | .object members => (decodedMembers? members []).map .object

/-- The items with their strings decoded, onto those found already. -/
def decodedItems? : List Tree → List Tree → Option (List Tree)
  | [], acc => some acc.reverse
  | t :: ts, acc =>
    match decoded? t with
    | some t => decodedItems? ts (t :: acc)
    | none => none

/-- The members with their strings and names decoded, onto those found already. -/
def decodedMembers? :
    List (List Piece × Tree) → List (List Piece × Tree) → Option (List (List Piece × Tree))
  | [], acc => some acc.reverse
  | (name, t) :: ms, acc =>
    match decodePieces? name [] [], decoded? t with
    | some name, some t => decodedMembers? ms ((name, t) :: acc)
    | _, _ => none

end

/-- The value of a document whose characters are bytes. -/
def bytesValue? (depth : Nat) (t : Tree) : Option Json := (decoded? t).bind (value? depth)

/-- The text of a written string whose characters are bytes. -/
def bytesText? (pieces : List Piece) : Option String :=
  (decodePieces? pieces [] []).bind piecesText?

end ShowControl.Json.Tree
