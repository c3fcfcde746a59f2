/-
Reading TOML documents.

A document is a list of lines, each with a pair, a header or nothing, and perhaps a comment.
Brackets and braces may hold values of their own, to a fixed depth, and only inside brackets may a
value run over several lines.  `Toml.read?` gives the table that a whole text describes.
-/
import ShowControl.Toml.Scalar
import ShowControl.Toml.Table
import ShowControl.Toml.Text

namespace ShowControl.Toml

/-! ### Blanks, comments and lines -/

/-- The text after the blanks at its front. -/
def skipBlanks (s : List Char) : List Char := s.dropWhile fun c => c == ' ' || c == '\t'

/-- The text after the blanks, line breaks and comments at its front. -/
def skipLines? : (inComment : Bool) → List Char → Option (List Char)
  | true, [] => none
  | true, c :: r =>
    if c == '\n' then skipLines? false r
    else if isPrintable c then skipLines? true r
    else none
  | false, [] => some []
  | false, c :: r =>
    if c == ' ' || c == '\t' || c == '\n' then skipLines? false r
    else if c == '#' then skipLines? true r
    else some (c :: r)

/-- The text after the line that ends here, perhaps with a comment. -/
def endLine? (s : List Char) : Option (List Char) :=
  let s :=
    match skipBlanks s with
    | '#' :: r => r.dropWhile isPrintable
    | r => r
  match s with
  | [] => some []
  | '\n' :: r => some r
  | _ => none

/-- The text with every line ending in a line feed alone. -/
def unifyBreaks : List Char → List Char
  | [] => []
  | '\r' :: '\n' :: r => '\n' :: unifyBreaks r
  | c :: r => c :: unifyBreaks r

/-! ### Keys -/

/-- How deep containers may nest, and how many parts a key may have. -/
def maxDepth : Nat := 79

/-- One part of a key: bare, or a string on one line. -/
def readPart? : List Char → Option (String × List Char)
  | '"' :: r => (readBasic? false .among r []).map fun (s, r) => (String.ofList s, r)
  | '\'' :: r => (readLiteral? false r []).map fun (s, r) => (String.ofList s, r)
  | s =>
    let (bare, r) := s.span fun c => c.isAlphanum || c == '-' || c == '_'
    if bare.isEmpty then none else some (String.ofList bare, r)

/-- The parts of a key, onto those read already, the latest first, with points and blanks between
them. -/
def readParts? : Nat → List Char → List String → Option (List String × List Char)
  | 0, _, _ => none
  | more + 1, s, acc =>
    match readPart? (skipBlanks s) with
    | none => none
    | some (part, r) =>
      match skipBlanks r with
      | '.' :: r => readParts? more r (part :: acc)
      | r => some (part :: acc, r)

/-- A key and what follows it. -/
def readKey? (s : List Char) : Option (Key × List Char) :=
  match readParts? maxDepth s [] with
  | some (name :: path, r) => some (⟨path.reverse, name⟩, r)
  | _ => none

/-! ### Values -/

/-- A reader of values. -/
abbrev Reader := List Char → Option (Toml × List Char)

/-- The items of an array after its bracket, onto those read already.  Every round takes an item,
so as many rounds as there are characters are enough. -/
def readItems? (value : Reader) :
    Nat → List Char → List Toml → Option (List Toml × List Char)
  | 0, _, _ => none
  | rounds + 1, s, acc => do
    match ← skipLines? false s with
    | ']' :: r => return (acc.reverse, r)
    | s =>
      let (v, r) ← value s
      match ← skipLines? false r with
      | ',' :: r => readItems? value rounds r (v :: acc)
      | ']' :: r => return ((v :: acc).reverse, r)
      | _ => none

/-- A pair, with a value on the same line. -/
def readPair? (value : Reader) (s : List Char) : Option (Pair × List Char) := do
  match ← readKey? s with
  | (key, '=' :: r) =>
    let (v, r) ← value (skipBlanks r)
    return (⟨key, v⟩, skipBlanks r)
  | _ => none

/-- The pairs of a table in braces, of which there is one more, onto those read already. -/
def readPairs? (value : Reader) :
    Nat → List Char → List Pair → Option (List Pair × List Char)
  | 0, _, _ => none
  | rounds + 1, s, acc => do
    let (pair, r) ← readPair? value s
    match r with
    | ',' :: r => readPairs? value rounds r (pair :: acc)
    | '}' :: r => return ((pair :: acc).reverse, r)
    | _ => none

/-- The value at the front of a text, with containers to the given depth inside. -/
def readValue? : Nat → Reader
  | 0, s =>
    match s with
    | '"' :: _ | '\'' :: _ => (readText? s).map fun (t, r) => (.text (String.ofList t), r)
    | s => readWord? s
  | depth + 1, s =>
    match s with
    | '[' :: r => do
      let (items, r) ← readItems? (fun s => readValue? depth s) (r.length + 1) r []
      return (.array items, r)
    | '\x7b' :: r =>
      match skipBlanks r with
      | '}' :: r => some (.table .braced [], r)
      | r => do
        let (pairs, r) ← readPairs? (fun s => readValue? depth s) (r.length + 1) r []
        return (.table .braced (← Table.assignAll pairs []), r)
    | '"' :: _ | '\'' :: _ => (readText? s).map fun (t, r) => (.text (String.ofList t), r)
    | s => readWord? s

/-! ### Documents -/

/-- What a line says. -/
inductive Line where
  | pair (p : Pair)
  | header (isElement : Bool) (key : Key)

/-- The line at the front of a text that is not empty, and the text after it; a blank line says
nothing. -/
def readLine? (s : List Char) : Option (Option Line × List Char) :=
  match skipBlanks s with
  | '[' :: '[' :: r => do
    match ← readKey? r with
    | (key, ']' :: ']' :: r) => return (some (.header true key), ← endLine? r)
    | _ => none
  | '[' :: r => do
    match ← readKey? r with
    | (key, ']' :: r) => return (some (.header false key), ← endLine? r)
    | _ => none
  | r =>
    match endLine? r with
    | some r => some (none, r)
    | none => do
      let (pair, r) ← readPair? (readValue? maxDepth) r
      return (some (.pair pair), ← endLine? r)

/-- The lines of a text, onto those read already.  Every line takes a character, so as many rounds
as there are characters are enough. -/
def readLines? : Nat → List Char → List Line → Option (List Line)
  | _, [], acc => some acc.reverse
  | 0, _, _ => none
  | rounds + 1, s, acc => do
    let (line, r) ← readLine? s
    readLines? rounds r (line.toList ++ acc)

/-- The document that lines make: the pairs before the first header, and each header with the pairs
up to the next one. -/
def document (lines : List Line) : Document :=
  let add (line : Line) (d : Document) : Document :=
    match line with
    | .pair p => { d with top := p :: d.top }
    | .header isElement key => ⟨[], ⟨isElement, key, d.top⟩ :: d.sections⟩
  lines.foldr add ⟨[], []⟩

/-- The table that a text describes.  A byte order mark at its front does not count. -/
def read? (s : List Char) : Option Table :=
  let s :=
    match s with
    | '\uFEFF' :: r => unifyBreaks r
    | s => unifyBreaks s
  (readLines? (s.length + 1) s []).bind fun lines => (document lines).table?

end ShowControl.Toml
