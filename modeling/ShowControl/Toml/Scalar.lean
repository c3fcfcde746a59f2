/-
TOML words: truth values, numbers, dates and times.

A word is a run of word characters, and it is a value as a whole or not at all.  Underscores may
part the digits of a number, a whole number has to fit a signed 64-bit word, and dates and times
have to exist; only a date with a time has a blank inside, and it is read piece by piece.
-/
import ShowControl.Text.Hex
import ShowControl.Toml.Value

namespace ShowControl.Toml

/-- The characters of words. -/
def isWordChar (c : Char) : Bool := c.isAlphanum || c == '_' || c == '+' || c == '-' ||
  c == '.' || c == ':'

/-! ### Digits -/

/-- Digits with single underscores between them; the digits alone are returned. -/
def digits? (isDigit : Char → Bool) : List Char → Option (List Char)
  | [] => none
  | [c] => if isDigit c then some [c] else none
  | c :: '_' :: r => if isDigit c then (digits? isDigit r).map (c :: ·) else none
  | c :: r => if isDigit c then (digits? isDigit r).map (c :: ·) else none

/-- Decimal digits without a leading zero. -/
def leading? (s : List Char) : Option (List Char) :=
  (digits? Char.isDigit s).filter fun ds => ds.length == 1 || s.head? != some '0'

/-- The number that digits of a base denote. -/
def ofBase (base : Nat) (ds : List Char) : Nat :=
  ds.foldl (fun n c => base * n + (Text.hexValue? c).getD 0) 0

/-! ### Numbers -/

/-- A whole number that a signed 64-bit word can hold. -/
def word? (i : Int) : Option Toml :=
  if -(2 ^ 63) ≤ i ∧ i < 2 ^ 63 then some (.integer i) else none

/-- A whole number after a sign or without one. -/
def integer? (s : List Char) : Option Toml :=
  let below (base : Nat) (c : Char) : Bool :=
    match Text.hexValue? c with
    | some d => d < base
    | none => false
  let inBase (base : Nat) (r : List Char) : Option Toml := do
    word? (ofBase base (← digits? (below base) r))
  match s with
  | '0' :: 'x' :: r => inBase 16 r
  | '0' :: 'o' :: r => inBase 8 r
  | '0' :: 'b' :: r => inBase 2 r
  | s => do
    let (negative, r) := Number.takeSign s
    let n := Number.natOfDigits (← leading? r)
    word? (if negative then -(n : Int) else n)

/-- A power of ten, after its letter. -/
def power? (s : List Char) : Option Int := do
  let (negative, r) := Number.takeSign s
  let n := Number.natOfDigits (← digits? Char.isDigit r)
  return if negative then -(n : Int) else n

/-- A number with a point, a power or both.  One that is too large is refused, though a negative
one counts as the negative infinity. -/
def float? (s : List Char) : Option Toml := do
  let (negative, r) := Number.takeSign s
  let isPower : Char → Bool := fun c => c == 'e' || c == 'E'
  let (mantissa, tail) := r.span (! isPower ·)
  let power ←
    match tail with
    | [] => some 0
    | _ :: t => power? t
  let (whole, fraction) := mantissa.span (· != '.')
  let whole ← leading? whole
  let fraction ←
    match fraction with
    | [] => if tail.isEmpty then none else some []
    | _ :: f => digits? Char.isDigit f
  match (Number.Decimal.ofParts negative whole fraction power).nearest with
  | .infinite false => none
  | x => return .float x

/-- The infinities and the value that is no number. -/
def special? (s : List Char) : Option Toml :=
  let (negative, r) := Number.takeSign s
  if r == ['i', 'n', 'f'] then some (.float (.infinite negative))
  else if r == ['n', 'a', 'n'] then some (.float .nan)
  else none

/-! ### Dates and times -/

/-- A number of two digits from `lo` to `hi`. -/
def twoDigits? (lo hi : Nat) (a b : Char) : Option Nat :=
  if a.isDigit && b.isDigit then
    let n := Number.natOfDigits [a, b]
    if lo ≤ n && n ≤ hi then some n else none
  else none

/-- How many days a month has. -/
def daysIn (year month : Nat) : Nat :=
  if month == 2 then
    if year % 4 == 0 && (year % 100 != 0 || year % 400 == 0) then 29 else 28
  else if month == 4 || month == 6 || month == 9 || month == 11 then 30
  else 31

/-- Whether a text begins with a date that exists, and what follows it. -/
def afterDate? : List Char → Option (List Char)
  | y1 :: y2 :: y3 :: y4 :: '-' :: m1 :: m2 :: '-' :: d1 :: d2 :: r => do
    let year := [y1, y2, y3, y4]
    let month ← twoDigits? 1 12 m1 m2
    if year.all Char.isDigit then
      let _ ← twoDigits? 1 (daysIn (Number.natOfDigits year) month) d1 d2
      return r
    else none
  | _ => none

/-- Whether a text begins with a time of day, and what follows it. -/
def afterTime? : List Char → Option (List Char)
  | h1 :: h2 :: ':' :: m1 :: m2 :: ':' :: s1 :: s2 :: r => do
    let _ ← twoDigits? 0 23 h1 h2
    let _ ← twoDigits? 0 59 m1 m2
    let _ ← twoDigits? 0 60 s1 s2
    match r with
    | '.' :: r =>
      let (fraction, r) := Number.takeDigits r
      if fraction.isEmpty then none else return r
    | r => return r
  | _ => none

/-- Whether a text is the rest of a time: nothing, or how far its clock is from universal time. -/
def isOffset : List Char → Bool
  | [] | ['Z'] | ['z'] => true
  | [sign, h1, h2, ':', m1, m2] =>
    (sign == '+' || sign == '-') && (twoDigits? 0 23 h1 h2).isSome &&
      (twoDigits? 0 59 m1 m2).isSome
  | _ => false

/-- Whether a text is a time of day that may have an offset. -/
def isClock (s : List Char) : Bool :=
  match afterTime? s with
  | some r => isOffset r
  | none => false

/-- Whether a word is a date, a date with a time, or a time. -/
def isMoment (s : List Char) : Bool :=
  match afterDate? s with
  | some [] => true
  | some (delimiter :: r) => (delimiter == 'T' || delimiter == 't') && isClock r
  | none => afterTime? s == some []

/-! ### Words -/

/-- The value that a word is. -/
def word (s : List Char) : Option Toml :=
  if s == ['t', 'r', 'u', 'e'] then some (.bool true)
  else if s == ['f', 'a', 'l', 's', 'e'] then some (.bool false)
  else if isMoment s then some (.moment (String.ofList s))
  else integer? s <|> float? s <|> special? s

/-- The word at the front of a text, and what follows it.  After a date a blank and a time go on
with the same value. -/
def readWord? (s : List Char) : Option (Toml × List Char) :=
  let (front, r) := s.span isWordChar
  match r with
  | ' ' :: d :: r' =>
    if d.isDigit && afterDate? front == some [] then
      let (clock, r) := (d :: r').span isWordChar
      if isClock clock then some (.moment (String.ofList (front ++ ' ' :: clock)), r) else none
    else (word front).map (·, r)
  | r => (word front).map (·, r)

end ShowControl.Toml
