/-
The query of a request.

A query is a list of names and values as a form writes them: `&` between the pairs, `=` between
name and value, `+` for a blank, and bytes as `%` with two hexadecimal digits.  Of the names only
`limit` means something here.
-/
import ShowControl.Number.Decimal
import ShowControl.Text.Hex
import ShowControl.Text.Pieces
import ShowControl.Text.Utf8

namespace ShowControl.Http.Query

/-- The byte that a `%` with these two characters stands for. -/
def escaped? (a b : UInt8) : Option UInt8 := do
  let high ← Text.hexValue? (Char.ofNat a.toNat)
  let low ← Text.hexValue? (Char.ofNat b.toNat)
  return (16 * high + low).toUInt8

/-- The byte that a written byte stands for: a plus is a blank. -/
def plain (c : UInt8) : UInt8 := if c == 0x2B then 0x20 else c

/-- The bytes that a written name or value stands for; a `%` without two digits stands for
itself. -/
def unescape : List UInt8 → List UInt8
  | [] => []
  | c :: a :: b :: r =>
    match if c == 0x25 then escaped? a b else none with
    | some byte => byte :: unescape r
    | none => plain c :: unescape (a :: b :: r)
  | c :: r => plain c :: unescape r

/-- A name or a value. -/
def word (s : List Char) : List Char := Text.Utf8.decodeLossy (unescape (Text.Utf8.encode s))

/-- The names and values of a query. -/
def pairs (query : List Char) : List (List Char × List Char) :=
  (Text.filledPieces '&' query).map fun piece =>
    let (name, r) := piece.span (· != '=')
    (word name, word (r.drop 1))

/-- What can be wrong with a query. -/
inductive QueryFault where
  | duplicate (name : String)
  | integer (fault : Number.IntegerFault)
deriving DecidableEq

/-- The wording of the fault. -/
def QueryFault.message : QueryFault → String
  | duplicate name => "duplicate field \x60" ++ name ++ "\x60"
  | integer fault => fault.message

/-- The limit among names and values, once `found`; it may be given once, and the first fault
counts. -/
def limitAmong (found : Option Nat) :
    List (List Char × List Char) → Except QueryFault (Option Nat)
  | [] => .ok found
  | (name, value) :: rest =>
    if name == "limit".toList then
      match found with
      | some _ => .error (.duplicate "limit")
      | none =>
        match Number.readInteger .unsigned64 value with
        | .ok i => limitAmong (some i.toNat) rest
        | .error fault => .error (.integer fault)
    else limitAmong found rest

/-- The limit that a query asks for. -/
def limit (query : List Char) : Except QueryFault (Option Nat) := limitAmong none (pairs query)

end ShowControl.Http.Query
