/-
How a TOML document fills its tables.

A document is a list of pairs followed by sections, each with its header and its pairs.  The key of
a pair and the name in a header may have several parts; the tables on the way are made as needed.
Nothing can be given twice: a pair may not name what is there already, a header may take over a
table that was implied so far but no other, and dotted keys reach only into tables that dotted keys
or headers implied.
-/
import ShowControl.Toml.Value

namespace ShowControl.Toml

/-- A key of one or more parts. -/
structure Key where
  /-- The parts before the last one. -/
  path : List String
  name : String
deriving DecidableEq

/-- A key and its value. -/
structure Pair where
  key : Key
  value : Toml

/-- A header and what stands under it. -/
structure Section where
  /-- Whether the header adds an element to an array of tables. -/
  isElement : Bool
  key : Key
  pairs : List Pair

/-- A document, as it is written. -/
structure Document where
  top : List Pair
  sections : List Section

namespace Table

/-- Gives the entry of that name a new value, made from the old one if there is one. -/
def alter (name : String) (f : Option Toml → Option Toml) : Table → Option Table
  | [] => (f none).map fun v => [(name, v)]
  | (k, v) :: rest =>
    if k = name then (f (some v)).map fun v => (k, v) :: rest
    else (alter name f rest).map ((k, v) :: ·)

/-- Changes the last of some tables. -/
def alterLast (f : Table → Option Table) : List Table → Option (List Table)
  | [] => none
  | [t] => (f t).map ([·])
  | t :: ts => (alterLast f ts).map (t :: ·)

/-- A value where nothing is yet. -/
def fresh (value : Toml) : Option Toml → Option Toml
  | none => some value
  | some _ => none

/-- Enters a value under a key. -/
def assign (value : Toml) : List String → String → Table → Option Table
  | [], name, t => alter name (fresh value) t
  | part :: path, name, t =>
    let onward : Option Toml → Option Toml
      | none => (assign value path name []).map (.table .dotted)
      | some (.table .dotted inner) => (assign value path name inner).map (.table .dotted)
      | some (.table .implied inner) =>
        if path.isEmpty then none else (assign value path name inner).map (.table .implied)
      | some (.tables elements) =>
        if path.isEmpty then none
        else (alterLast (fun inner => assign value path name inner) elements).map .tables
      | some _ => none
    alter part onward t

/-- Enters pairs one after the other. -/
def assignAll (pairs : List Pair) (t : Table) : Option Table :=
  pairs.foldlM (fun t p => assign p.value p.key.path p.key.name t) t

/-- Changes the table that a header path leads to. -/
def within (f : Table → Option Table) : List String → Table → Option Table
  | [], t => f t
  | part :: path, t =>
    let onward : Option Toml → Option Toml
      | none => (within f path []).map (.table .implied)
      | some (.table .braced _) => none
      | some (.table kind inner) => (within f path inner).map (.table kind)
      | some (.tables elements) =>
        (alterLast (fun inner => within f path inner) elements).map .tables
      | some _ => none
    alter part onward t

/-- Enters a section. -/
def enter (s : Section) (t : Table) : Option Table :=
  let fill := assignAll s.pairs
  let define : Option Toml → Option Toml :=
    if s.isElement then fun
      | none => (fill []).map fun element => .tables [element]
      | some (.tables elements) => (fill []).map fun element => .tables (elements ++ [element])
      | some _ => none
    else fun
      | none => (fill []).map (.table .headed)
      | some (.table .implied inner) => (fill inner).map (.table .headed)
      | some _ => none
  within (alter s.key.name define) s.key.path t

end Table

/-- The table that a document describes. -/
def Document.table? (d : Document) : Option Table := do
  d.sections.foldlM (fun t s => Table.enter s t) (← Table.assignAll d.top [])

end ShowControl.Toml
