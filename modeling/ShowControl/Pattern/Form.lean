/-
The form of patterns.

A pattern is a list of branches with bars between them, a branch a row of parts.  Parts are symbols,
classes, groups, and parts that are repeated.  A group can switch modes, for itself or for what is
left of the group around it, and it can have a name.  `fault?` tells whether a pattern can be used,
and why not: it may be ill formed, or depend on the words of a text that is no longer at hand when
it is matched one byte after the other.
-/
import ShowControl.Pattern.Class
import ShowControl.Text.Letters

namespace ShowControl.Pattern

/-- Why a pattern cannot be used. -/
inductive PatternFault where
  /-- It is ill formed, or needs more than there is. -/
  | form
  /-- It asks for the ends of words in Unicode mode. -/
  | wordBoundary
deriving DecidableEq

/-- The wording of the fault. -/
def PatternFault.message : PatternFault → String
  | form => "error building NFA"
  | wordBoundary =>
    "unsupported regex feature for DFAs: cannot build DFAs for regexes with Unicode word " ++
      "boundaries; switch to ASCII word boundaries, or heuristically enable Unicode word " ++
      "boundaries or use a different regex engine"

/-! ### Reading -/

/-- A part of a branch. -/
structure Part where
  /-- How deeply parts are nested in it. -/
  depth : Nat
  /-- Whether it can be repeated; what only switches modes cannot. -/
  repeatable : Bool := true

/-- A group that is not closed yet, or the whole pattern. -/
structure Group where
  modes : Modes := {}
  /-- The depths of the branches before the last one. -/
  branches : List Nat := []
  /-- The parts of the last branch, the latest first. -/
  parts : List Part := []

namespace Group

/-- The group with a part more. -/
def add (g : Group) (p : Part) : Group := { g with parts := p :: g.parts }

/-- The group with its last branch ended. -/
def endBranch (g : Group) : Group :=
  { g with branches := nesting (g.parts.map (·.depth)) :: g.branches, parts := [] }

/-- How deeply parts are nested in what the group holds. -/
def depth (g : Group) : Nat := nesting g.endBranch.branches

/-- The group with its latest part repeated. -/
def repeatLast? (g : Group) : Option Group :=
  match g.parts with
  | p :: parts =>
    if p.repeatable then some { g with parts := ⟨p.depth + 1, true⟩ :: parts } else none
  | [] => none

end Group

/-- What was read of a pattern. -/
structure Reading where
  /-- The innermost group. -/
  group : Group := {}
  /-- The groups around it, the innermost first. -/
  outer : List Group := []
  /-- The names of groups. -/
  names : List (List Char) := []
  /-- Whether the ends of words in Unicode mode were asked for. -/
  wordBoundary : Bool := false

namespace Reading

/-- Opens a group. -/
def openGroup (p : Reading) (modes : Modes) : Reading :=
  { p with group := { modes }, outer := p.group :: p.outer }

/-- Closes the innermost group. -/
def closeGroup? (p : Reading) : Option Reading :=
  match p.outer with
  | g :: outer => some { p with group := g.add ⟨1 + p.group.depth, true⟩, outer }
  | [] => none

/-- Adds a symbol. -/
def addSymbol? (p : Reading) (s : Symbol) : Option Reading :=
  if s.isAllowed p.group.modes then
    some
      { p with
        group := p.group.add { depth := 0 }
        wordBoundary := p.wordBoundary || (p.group.modes.unicode && s == .wordBoundary) }
  else none

/-- Whether a text can be the name of a group. -/
def isName : List Char → Bool
  | [] => false
  | c :: r =>
    (c == '_' || Text.isLetter c) &&
      r.all fun c => "_.[]".toList.contains c || Text.isLetterOrNumeral c

/-- Reads the name of a group and opens the group. -/
def readName? (p : Reading) (s : List Char) : Option (Reading × List Char) :=
  match s.span (· != '>') with
  | (name, _ :: r) =>
    if isName name && !p.names.contains name then
      some ({ p.openGroup p.group.modes with names := name :: p.names }, r)
    else none
  | _ => none

/-- Whether a text is a list of flags: different letters, with at most one dash, not at the end. -/
def areFlags (flags : List Char) : Bool :=
  decide flags.Nodup && flags.all (fun c => c == '-' || Modes.letters.contains c) &&
    flags.getLast? != some '-'

/-- Reads flags, and opens a group if it begins after them. -/
def readFlags? (p : Reading) (s : List Char) : Option (Reading × List Char) :=
  match s.span fun c => c != ':' && c != ')' with
  | (flags, c :: r) =>
    let modes := p.group.modes.switch flags
    if !areFlags flags then none
    else if c == ':' then some (p.openGroup modes, r)
    else if flags.isEmpty then none
    else
      let group := { p.group with modes }.add { depth := 0, repeatable := false }
      some ({ p with group }, r)
  | _ => none

/-- Reads what follows an opening parenthesis. -/
def readGroup? (p : Reading) (s : List Char) : Option (Reading × List Char) :=
  match p.group.modes.skip s with
  | '?' :: 'P' :: '<' :: r => p.readName? r
  | '?' :: '<' :: r => p.readName? r
  | '?' :: r => p.readFlags? r
  | r => some (p.openGroup p.group.modes, r)

/-- Reads what follows an opening bracket. -/
def readClass? (p : Reading) (s : List Char) : Option (Reading × List Char) :=
  (Class.read? p.group.modes (s.length + 1) {} [] s).map fun (extent, r) =>
    ({ p with group := p.group.add { depth := extent.depth } }, r)

/-- Reads what follows a sign of repetition; a question mark right after it is part of it. -/
def repeatLast? (p : Reading) (s : List Char) : Option (Reading × List Char) :=
  p.group.repeatLast?.map fun group =>
    ({ p with group },
      match s with
      | '?' :: r => r
      | r => r)

/-- Reads one step; counted repetitions would end in a brace, which ends the pattern. -/
def step? (p : Reading) (c : Char) (r : List Char) : Option (Reading × List Char) :=
  match c with
  | '(' => p.readGroup? r
  | ')' => p.closeGroup?.map (·, r)
  | '|' => some ({ p with group := p.group.endBranch }, r)
  | '[' => p.readClass? r
  | '?' => p.repeatLast? r
  | '*' => p.repeatLast? r
  | '+' => p.repeatLast? r
  | '\x7b' => none
  | '^' => (p.addSymbol? .anchor).map (·, r)
  | '$' => (p.addSymbol? .anchor).map (·, r)
  | '.' => if p.group.modes.unicode then (p.addSymbol? .anchor).map (·, r) else none
  | c => do
    let (symbol, r) ← readSymbol? p.group.modes (c :: r)
    let p ← p.addSymbol? symbol
    return (p, r)

/-- Reads a pattern to its end; every step takes at least one character. -/
def run? : (rounds : Nat) → Reading → List Char → Option Reading
  | 0, _, _ => none
  | rounds + 1, p, s =>
    match p.group.modes.skip s with
    | [] => if p.outer.isEmpty then some p else none
    | c :: r =>
      match p.step? c r with
      | some (p, r) => run? rounds p r
      | none => none

end Reading

/-- How deeply the parts of a pattern may be nested. -/
def maxDepth : Nat := 250

/-- Why a pattern cannot be used; none if it can. -/
def fault? (s : List Char) : Option PatternFault :=
  match Reading.run? (s.length + 1) {} s with
  | none => some .form
  | some p =>
    if maxDepth < p.group.depth then some .form
    else if p.wordBoundary then some .wordBoundary
    else none

end ShowControl.Pattern
