/-
JSON documents as they are written.

A `Tree` keeps what the text says and decides nothing: members stand in their order, a name may
come twice, numbers are decimals of any size, and a string is the list of its pieces, an escaped
code unit being told from a character.  `Tree.read?` reads one document off the front of a text.
Containers that are still open are held in a list of frames, so the depth of a text does not
matter to the reader.

Which trees denote a value is said by `Tree.value?`: strings must pair their surrogates, numbers
must be in the range of doubles, and containers may nest to a given depth.
-/
import ShowControl.Json.Value
import ShowControl.Text.Hex

namespace ShowControl.Json

/-- A piece of a written string: a character, or a code unit given by its number. -/
inductive Piece where
  | plain (c : Char)
  | unit (n : Nat)

/-- A document as written. -/
inductive Tree where
  | null
  | bool (b : Bool)
  /-- With `isWhole` the number has neither point nor power. -/
  | number (isWhole : Bool) (d : Number.Decimal)
  | string (pieces : List Piece)
  | array (items : List Tree)
  | object (members : List (List Piece × Tree))

namespace Tree

/-! ### Words, numbers and strings -/

/-- The text after the blanks at its front; JSON knows four. -/
def skipBlanks (s : List Char) : List Char :=
  s.dropWhile fun c => c == ' ' || c == '\t' || c == '\n' || c == '\r'

/-- The number at the front of a text, after its sign: no leading zero, digits on both sides of a
point, digits in a power. -/
def readNumber? (negative : Bool) (s : List Char) : Option (Tree × List Char) :=
  let (whole, r) := Number.takeDigits s
  if whole.isEmpty || (whole.length != 1 && whole.head? == some '0') then none
  else
    let point : Option (List Char × Bool × List Char) :=
      match r with
      | '.' :: r =>
        let (fraction, r) := Number.takeDigits r
        if fraction.isEmpty then none else some (fraction, false, r)
      | r => some ([], true, r)
    match point with
    | none => none
    | some (fraction, isWhole, r) =>
      match r with
      | c :: r' =>
        if c == 'e' || c == 'E' then
          match Number.takePower? r' with
          | some (power, r) => some (number false (.ofParts negative whole fraction power), r)
          | none => none
        else some (number isWhole (.ofParts negative whole fraction 0), r)
      | [] => some (number isWhole (.ofParts negative whole fraction 0), [])

/-- The number of four hexadecimal digits. -/
def hexUnit? (a b c d : Char) : Option Nat := do
  let high := 16 * (← Text.hexValue? a) + (← Text.hexValue? b)
  let low := 16 * (← Text.hexValue? c) + (← Text.hexValue? d)
  return 256 * high + low

/-- The character of a one-letter escape. -/
def letterEscape? : Char → Option Char
  | '"' => some '"'
  | '\\' => some '\\'
  | '/' => some '/'
  | 'b' => some '\x08'
  | 'f' => some '\x0c'
  | 'n' => some '\n'
  | 'r' => some '\r'
  | 't' => some '\t'
  | _ => none

/-- The rest of a string after its opening quote: its pieces, onto those read already, and what
follows the closing quote. -/
def readPieces? : List Char → List Piece → Option (List Piece × List Char)
  | [], _ => none
  | '"' :: r, acc => some (acc.reverse, r)
  | '\\' :: 'u' :: a :: b :: c :: d :: r, acc =>
    match hexUnit? a b c d with
    | some n => readPieces? r (.unit n :: acc)
    | none => none
  | '\\' :: e :: r, acc =>
    match letterEscape? e with
    | some c => readPieces? r (.plain c :: acc)
    | none => none
  | c :: r, acc => if c == '\\' || c.toNat < 0x20 then none else readPieces? r (.plain c :: acc)

/-- A document that holds no other: a word, a number or a string. -/
def readLeaf? : List Char → Option (Tree × List Char)
  | 'n' :: 'u' :: 'l' :: 'l' :: r => some (null, r)
  | 't' :: 'r' :: 'u' :: 'e' :: r => some (bool true, r)
  | 'f' :: 'a' :: 'l' :: 's' :: 'e' :: r => some (bool false, r)
  | '"' :: r =>
    match readPieces? r [] with
    | some (pieces, r) => some (string pieces, r)
    | none => none
  | '-' :: r => readNumber? true r
  | s => readNumber? false s

/-- A member's name and the colon after it. -/
def readName? (s : List Char) : Option (List Piece × List Char) :=
  match skipBlanks s with
  | '"' :: r =>
    match readPieces? r [] with
    | some (name, r) =>
      match skipBlanks r with
      | ':' :: r => some (name, r)
      | _ => none
    | none => none
  | _ => none

/-! ### Containers -/

/-- A container that is still open: what it holds so far, the latest first, and for an object the
name of the member that is being read. -/
inductive Frame where
  | items (done : List Tree)
  | members (done : List (List Piece × Tree)) (name : List Piece)

/-- Reads on inside the open containers.  With no tree at hand a document begins here; with one at
hand it goes to the innermost container.  Every round takes a character, so as many rounds as there
are characters, and one to finish, are enough. -/
def readOn : Nat → List Frame → Option Tree → List Char → Option (Tree × List Char)
  | _, [], some t, s => some (t, s)
  | 0, _, _, _ => none
  | rounds + 1, frames, none, s =>
    match skipBlanks s with
    | '[' :: r =>
      match skipBlanks r with
      | ']' :: r => readOn rounds frames (some (array [])) r
      | r => readOn rounds (.items [] :: frames) none r
    | '\x7b' :: r =>
      match skipBlanks r with
      | '}' :: r => readOn rounds frames (some (object [])) r
      | r =>
        match readName? r with
        | some (name, r) => readOn rounds (.members [] name :: frames) none r
        | none => none
    | r =>
      match readLeaf? r with
      | some (t, r) => readOn rounds frames (some t) r
      | none => none
  | rounds + 1, .items done :: frames, some t, s =>
    match skipBlanks s with
    | ',' :: r => readOn rounds (.items (t :: done) :: frames) none r
    | ']' :: r => readOn rounds frames (some (array (t :: done).reverse)) r
    | _ => none
  | rounds + 1, .members done name :: frames, some t, s =>
    match skipBlanks s with
    | ',' :: r =>
      match readName? r with
      | some (next, r) => readOn rounds (.members ((name, t) :: done) next :: frames) none r
      | none => none
    | '}' :: r => readOn rounds frames (some (object ((name, t) :: done).reverse)) r
    | _ => none

/-- With a document at hand and no container open, the reader is done. -/
theorem readOn_nil (rounds : Nat) (t : Tree) (s : List Char) :
    readOn rounds [] (some t) s = some (t, s) := by
  rw [readOn]

/-- The document at the front of a text, and what follows it. -/
def read? (s : List Char) : Option (Tree × List Char) := readOn (s.length + 1) [] none s

/-- The document that a whole text is. -/
def readAll? (s : List Char) : Option Tree :=
  match read? s with
  | some (t, r) => if (skipBlanks r).isEmpty then some t else none
  | none => none

/-! ### The value of a document -/

/-- The characters of a written string, onto those found already; a surrogate is worth nothing
without its other half. -/
def joinPieces? : List Piece → List Char → Option (List Char)
  | [], acc => some acc.reverse
  | .plain c :: r, acc => joinPieces? r (c :: acc)
  | .unit n :: r, acc =>
    if 0xD800 ≤ n ∧ n < 0xDC00 then
      match r with
      | .unit m :: r =>
        if 0xDC00 ≤ m ∧ m < 0xE000 then
          joinPieces? r (Char.ofNat (0x10000 + (n - 0xD800) * 0x400 + (m - 0xDC00)) :: acc)
        else none
      | _ => none
    else if 0xDC00 ≤ n ∧ n < 0xE000 then none
    else joinPieces? r (Char.ofNat n :: acc)

/-- The text of a written string. -/
def piecesText? (pieces : List Piece) : Option String := (joinPieces? pieces []).map String.ofList

mutual

/-- The value of a document whose containers nest at most `depth` deep. -/
def value? : Nat → Tree → Option Json
  | _, .null => some .null
  | _, .bool b => some (.bool b)
  | _, .number isWhole d => (JsonNumber.ofDecimal? isWhole d).map .number
  | _, .string pieces => (piecesText? pieces).map .string
  | 0, .array _ => none
  | depth + 1, .array items => (values? depth items []).map .array
  | 0, .object _ => none
  | depth + 1, .object members =>
    (memberValues? depth members []).map fun ms => .object (Fields.ofMembers ms)

/-- The values of the items, onto those found already. -/
def values? : Nat → List Tree → List Json → Option (List Json)
  | _, [], acc => some acc.reverse
  | depth, t :: ts, acc =>
    match value? depth t with
    | some j => values? depth ts (j :: acc)
    | none => none

/-- The names and values of the members, onto those found already. -/
def memberValues? :
    Nat → List (List Piece × Tree) → List (String × Json) → Option (List (String × Json))
  | _, [], acc => some acc.reverse
  | depth, (name, t) :: ms, acc =>
    match piecesText? name, value? depth t with
    | some k, some j => memberValues? depth ms ((k, j) :: acc)
    | _, _ => none

end

/-! ### Parts of a document that is not taken as a value -/

/-- The members of an object with their names as texts. -/
def members? : Tree → Option (List (String × Tree))
  | .object members => members.mapM fun m => (piecesText? m.1).map (·, m.2)
  | _ => none

/-- The member of that name among members that hold it at most once. -/
def unique? (members : List (String × Tree)) (name : String) : Option (Option Tree) :=
  match members.filter (·.1 == name) with
  | [] => some none
  | [m] => some (some m.2)
  | _ => none

/-- A whole number from zero to `most`. -/
def nat? (most : Nat) : Tree → Option Nat
  | .number true d => if !d.negative && d.digits ≤ most then some d.digits else none
  | _ => none

end Tree

/-- How deep the containers of a document may nest. -/
def maxDepth : Nat := 127

/-- The value at the front of a text; what follows it does not matter. -/
def readFront? (s : List Char) : Option Json :=
  (Tree.read? s).bind fun (t, _) => t.value? maxDepth

/-- The value that a whole text denotes. -/
def read? (s : List Char) : Option Json := (Tree.readAll? s).bind (·.value? maxDepth)

end ShowControl.Json
