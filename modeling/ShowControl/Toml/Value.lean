/-
TOML values.

A table knows how it came about, since that decides who may add to it: a table written in braces is
complete, a table under a header is complete but for tables inside it, and a table that was only on
the way to another one may still get its own header or, if dotted keys made it, more dotted keys.
-/
import ShowControl.Number.Decimal

namespace ShowControl

/-- How a table came about. -/
inductive Toml.Kind where
  /-- It was written in braces. -/
  | braced
  /-- It stands under its own header. -/
  | headed
  /-- It is on the way to a table that stands under a header. -/
  | implied
  /-- It is on the way to the last part of a dotted key. -/
  | dotted
deriving DecidableEq

/-- A TOML value. -/
inductive Toml where
  | text (s : String)
  | integer (i : Int)
  | float (x : Number.Extended)
  | bool (b : Bool)
  /-- A date, a time of day or both, as it is written. -/
  | moment (s : String)
  | array (items : List Toml)
  | table (kind : Toml.Kind) (entries : List (String × Toml))
  /-- Tables under headers that all name the same array. -/
  | tables (elements : List (List (String × Toml)))

namespace Toml

/-- The entries of a table, each name once. -/
abbrev Table := List (String × Toml)

instance : Inhabited Toml := ⟨table .braced []⟩

/-- The entry of that name. -/
def Table.get? (t : Table) (name : String) : Option Toml := t.lookup name

end Toml

end ShowControl
