/-
JSON values.

A number is a whole number of at most 64 bits or a finite double.  An object is a list of named
fields; a value that was read from text has them in the order of their names, each name once
(`Fields.ofMembers`), so equal objects print alike.
-/
import ShowControl.Number.Decimal
import ShowControl.Text.Blank

namespace ShowControl

/-- The whole numbers that stay whole: those of a signed or an unsigned 64-bit word. -/
def IsWord (i : Int) : Prop := -(2 ^ 63) ≤ i ∧ i < 2 ^ 64

instance (i : Int) : Decidable (IsWord i) := inferInstanceAs (Decidable (_ ∧ _))

/-- A JSON number. -/
inductive JsonNumber where
  | whole (i : Int) (isWord : IsWord i)
  | double (x : Number.Binary64)
deriving DecidableEq

/-- A JSON value. -/
inductive Json where
  | null
  | bool (b : Bool)
  | number (n : JsonNumber)
  | string (s : String)
  | array (items : List Json)
  | object (fields : List (String × Json))

namespace JsonNumber

/-- A natural number of at most 64 bits. -/
def ofNat (n : Nat) (h : n < 2 ^ 64) : JsonNumber := .whole n ⟨by omega, by omega⟩

/-- The double nearest to a number. -/
def nearest : JsonNumber → Number.Extended
  | .whole i _ => Number.ofInt i
  | .double x => .finite x

/-- The number that a decimal denotes: a whole number stays whole as long as it is a word, and the
negative zero is a double.  A number beyond all doubles is none. -/
def ofDecimal? (isWhole : Bool) (d : Number.Decimal) : Option JsonNumber :=
  let i : Int := if d.negative then -(d.digits : Int) else d.digits
  if h : IsWord i then
    if isWhole && !(d.negative && d.digits == 0) then some (.whole i h)
    else d.nearest.finite?.map .double
  else d.nearest.finite?.map .double

end JsonNumber

/-- The fields of an object. -/
abbrev Fields := List (String × Json)

namespace Fields

/-- The value of the first field of that name. -/
def get? (fields : Fields) (name : String) : Option Json := fields.lookup name

/-- Of neighbours of one name the last. -/
def keepLast (fields : Fields) : Fields :=
  fields.foldr
    (fun field later =>
      match later with
      | [] => [field]
      | next :: _ => if field.1 = next.1 then later else field :: later)
    []

/-- The fields of an object with these members: sorted by name, the last of each name. -/
def ofMembers (members : List (String × Json)) : Fields :=
  keepLast (members.mergeSort (fun a b => decide (a.1 ≤ b.1)))

end Fields

namespace Json

instance : Inhabited Json := ⟨null⟩

/-- A small natural number. -/
def nat (n : Nat) (h : n < 2 ^ 64 := by decide) : Json := .number (.ofNat n h)

/-- A length or count, which stays below 2^64; a greater one is not told from the greatest. -/
def count (n : Nat) : Json := .number (.ofNat (min n (2 ^ 64 - 1)) (by omega))

/-- What kind of value it is, in words. -/
def kind : Json → String
  | null => "null"
  | bool _ => "boolean"
  | number _ => "number"
  | string _ => "string"
  | array _ => "array"
  | object _ => "object"

/-- The text of a string. -/
def text? : Json → Option String
  | string s => some s
  | _ => none

/-- The items of an array. -/
def items? : Json → Option (List Json)
  | array items => some items
  | _ => none

/-- The fields of an object. -/
def fields? : Json → Option Fields
  | object fields => some fields
  | _ => none

/-- A field of an object; other values have none. -/
def field? (j : Json) (name : String) : Option Json := j.fields?.bind (Fields.get? · name)

/-- A number, or a text that denotes one: the blanks around it do not count, and it has to be
finite. -/
def finiteNumber? : Json → Option Number.Binary64
  | number n => n.nearest.finite?
  | string s => (Number.readExtended? (Text.trim s.toList)).bind Number.Extended.finite?
  | _ => none

end Json

end ShowControl
