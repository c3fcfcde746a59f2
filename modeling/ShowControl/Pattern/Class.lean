/-
Classes of characters in brackets.

A class lists characters, ranges and other classes; `^` in front means all others, and `&&`, `--`
and `~~` join what stands before them to what stands after them.  A class without Unicode mode may
hold no byte beyond ASCII.  Only negation brings such bytes in, and it brings in all of them at
once, so one mark, `high`, tells whether a class holds them.
-/
import ShowControl.Pattern.Escape

namespace ShowControl.Pattern

/-- How deeply a list of things is nested whose members are nested that deeply: a list of one is no
list of its own. -/
def nesting : List Nat → Nat
  | [] => 0
  | [depth] => depth
  | depths => 1 + depths.foldl max 0

namespace Class

/-- What a class is told by. -/
structure Extent where
  /-- How deeply classes and operators are nested in it. -/
  depth : Nat
  /-- Whether it holds the bytes beyond ASCII. -/
  high : Bool

/-- The operators between classes. -/
inductive Operator where
  | intersection
  | difference
  | symmetricDifference

namespace Operator

/-- Whether two classes joined hold a byte. -/
def holds : Operator → Bool → Bool → Bool
  | intersection, a, b => a && b
  | difference, a, b => a && !b
  | symmetricDifference, a, b => a != b

/-- Reads an operator. -/
def read? : List Char → Option (Operator × List Char)
  | '&' :: '&' :: r => some (intersection, r)
  | '-' :: '-' :: r => some (difference, r)
  | '~' :: '~' :: r => some (symmetricDifference, r)
  | _ => none

end Operator

/-! ### Members -/

/-- The classes with names. -/
def names : List String :=
  ["alnum", "alpha", "ascii", "blank", "cntrl", "digit", "graph", "lower", "print", "punct",
    "space", "upper", "word", "xdigit"]

/-- Reads a class by its name, after its opening bracket: whether it is negated, and the rest. -/
def readName? : List Char → Option (Bool × List Char)
  | ':' :: r =>
    let (negated, r) :=
      match r with
      | '^' :: r => (true, r)
      | r => (false, r)
    match r.span (· != ':') with
    | (name, ':' :: ']' :: r) =>
      if names.contains (String.ofList name) then some (negated, r) else none
    | _ => none
  | _ => none

/-- Whether a character may be a member. -/
def mayHold (m : Modes) (c : Char) : Bool := !m.needsCases && (m.unicode || c.toNat < 0x80)

/-- Whether a symbol may be a member. -/
def isMember (m : Modes) : Symbol → Bool
  | .literal c _ => mayHold m c
  | .shorthand negated => !m.unicode && !negated
  | .anchor => false
  | .wordBoundary => false

/-- The character after a dash that is not blank. -/
def afterDash? (m : Modes) (s : List Char) : Option Char :=
  if m.spaced then
    match Text.trimStart s with
    | '#' :: r => (Text.trimStart r).head?
    | r => r.head?
  else s.head?

/-- Reads a member or a range of members and hands on the rest. -/
def readMembers? (m : Modes) (s : List Char) : Option (List Char) := do
  let (first, r) ← readSymbol? m s
  let alone : Option (List Char) := if isMember m first then some r else none
  match m.skip r with
  | '-' :: after =>
    match afterDash? m after with
    | some ']' => alone
    | some '-' => alone
    | _ =>
      let (last, r) ← readSymbol? m (m.skip after)
      match first, last with
      | .literal low _, .literal high _ =>
        if mayHold m low && mayHold m high && low.toNat ≤ high.toNat then some r else none
      | _, _ => none
  | _ => alone

/-! ### Open classes -/

/-- How much of a class was read. -/
inductive Stage where
  | opened
  | negated
  /-- After dashes, which stand for themselves in front. -/
  | dashes
  | inside
deriving DecidableEq

/-- A class that is not closed yet. -/
structure Draft where
  stage : Stage := .opened
  negated : Bool := false
  /-- What stands before the last operator. -/
  before : Option (Extent × Operator) := none
  /-- What stands after it. -/
  members : List Extent := []

namespace Draft

/-- The draft with a member more. -/
def add (d : Draft) (stage : Stage) (member : Extent) : Draft :=
  { d with stage, members := member :: d.members }

/-- What a draft amounts to so far, before it is negated. -/
def extent (d : Draft) : Extent :=
  let last : Extent := ⟨nesting (d.members.map (·.depth)), d.members.any (·.high)⟩
  match d.before with
  | none => last
  | some (first, op) => ⟨1 + max first.depth last.depth, op.holds first.high last.high⟩

/-- The draft after an operator. -/
def operate (d : Draft) (op : Operator) : Draft :=
  { d with stage := .inside, before := some (d.extent, op), members := [] }

/-- The class that a draft gives when it is closed. -/
def close? (m : Modes) (d : Draft) : Option Extent :=
  let high := d.extent.high != d.negated
  if m.unicode || !high then some ⟨1 + d.extent.depth, high⟩ else none

end Draft

/-- Reads a class whose opening bracket was read, together with the classes around it, the innermost
first; every round takes at least one character. -/
def read? (m : Modes) : (rounds : Nat) → Draft → List Draft → List Char →
    Option (Extent × List Char)
  | 0, _, _, _ => none
  | rounds + 1, d, outer, s =>
    match m.skip s with
    | [] => none
    | c :: r =>
      let literal (stage : Stage) : Option (Extent × List Char) :=
        if mayHold m c then read? m rounds (d.add stage ⟨0, false⟩) outer r else none
      if c == '^' && d.stage = .opened then
        read? m rounds { d with stage := .negated, negated := true } outer r
      else if c == '-' && d.stage ≠ .inside then literal .dashes
      else if c == ']' && (d.stage = .opened || d.stage = .negated) then literal .inside
      else if c == '[' then
        match readName? r with
        | some (negated, r) =>
          if m.needsCases then none
          else read? m rounds (d.add .inside ⟨0, negated⟩) outer r
        | none => read? m rounds {} (d :: outer) r
      else if c == ']' then
        match d.close? m, outer with
        | none, _ => none
        | some extent, [] => some (extent, r)
        | some extent, e :: outer => read? m rounds (e.add .inside extent) outer r
      else
        match Operator.read? (c :: r) with
        | some (op, r) => read? m rounds (d.operate op) outer r
        | none =>
          match readMembers? m (c :: r) with
          | some r => read? m rounds (d.add .inside ⟨0, false⟩) outer r
          | none => none

end Class

end ShowControl.Pattern
