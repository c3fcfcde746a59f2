/-
Decimal numbers and their text.

A `Decimal` is a sign, a whole number of digits and a power of ten.  `nearest` is the double that
it denotes.  `readExtended?` reads the general form that people type: a sign, digits with or
without a point, a power of ten, or one of the words for infinity and for no number.
`readInteger` reads a whole number of a given range and says why it cannot.
-/
import ShowControl.Number.Binary64

namespace ShowControl.Number

/-- One more digit after the digits of a number. -/
def pushDigit (n : Nat) (c : Char) : Nat := 10 * n + (c.toNat - 48)

/-- Reads digits onto a number that is held as `high` times ten to the `places`, plus `low`.  The
digits go to the low part, which moves up a thousand places at a time, so that a number of very many
digits is not copied at each of them. -/
def readBlocks (high low places : Nat) : List Char → Nat
  | [] => high * 10 ^ places + low
  | c :: r =>
    if places < 1000 then readBlocks high (pushDigit low c) (places + 1) r
    else readBlocks (high * 10 ^ places + low) (pushDigit 0 c) 1 r

/-- The whole number that a list of decimal digits denotes. -/
def natOfDigits (ds : List Char) : Nat := readBlocks 0 0 0 ds

theorem readBlocks_eq (high low places : Nat) (ds : List Char) :
    readBlocks high low places ds = ds.foldl pushDigit (high * 10 ^ places + low) := by
  induction ds generalizing high low places with
  | nil => rfl
  | cons c r ih =>
    rw [readBlocks, List.foldl_cons]
    split
    · rw [ih, pushDigit, pushDigit, Nat.pow_succ]
      congr 1
      rw [Nat.mul_add, Nat.mul_left_comm 10 high, Nat.mul_comm 10 (10 ^ places)]
      omega
    · rw [ih, pushDigit, pushDigit]
      congr 1
      omega

/-- The number of digits is built from the left, a digit at a time. -/
theorem natOfDigits_eq_foldl (ds : List Char) : natOfDigits ds = ds.foldl pushDigit 0 := by
  rw [natOfDigits, readBlocks_eq, Nat.zero_mul]

/-- The text of a whole number. -/
def natText (n : Nat) : List Char := Nat.toDigits 10 n

/-- The text of an integer. -/
def intText (i : Int) : List Char := if i < 0 then '-' :: natText i.natAbs else natText i.natAbs

/-- A decimal number: plus or minus `digits` times ten to the `exponent`. -/
structure Decimal where
  negative : Bool
  digits : Nat
  exponent : Int
deriving DecidableEq

namespace Decimal

/-- The magnitude in steps of 2^-1074, as a numerator and a denominator. -/
def steps (d : Decimal) : Nat × Nat :=
  if 0 ≤ d.exponent then (d.digits * 10 ^ d.exponent.toNat * one, 1)
  else (d.digits * one, 10 ^ (-d.exponent).toNat)

/-- The double nearest to a decimal number.  Beyond 10^400 only the infinity is in reach, and below
10^-400 only zero, so the powers that are formed stay small. -/
def nearest (d : Decimal) : Extended :=
  if d.digits = 0 then .finite ⟨d.negative, 0, Binary64.representable_zero⟩
  else if 400 < d.exponent then .infinite d.negative
  else if d.exponent + d.digits.log2 + 1 < -400 then
    .finite ⟨d.negative, 0, Binary64.representable_zero⟩
  else Number.nearest d.negative d.steps.1 d.steps.2

end Decimal

/-! ### Pieces of the grammar -/

/-- The digits at the front of a text, and what follows them. -/
def takeDigits (s : List Char) : List Char × List Char := s.span Char.isDigit

/-- A sign at the front of a text, and what follows it. -/
def takeSign : List Char → Bool × List Char
  | '-' :: r => (true, r)
  | '+' :: r => (false, r)
  | s => (false, s)

/-- A power of ten at the front of a text, after its letter: a sign and at least one digit. -/
def takePower? (s : List Char) : Option (Int × List Char) :=
  let (negative, r) := takeSign s
  let (ds, r) := takeDigits r
  if ds.isEmpty then none
  else some (if negative then -(natOfDigits ds : Int) else natOfDigits ds, r)

/-- The decimal number with the given digits before and after its point, times a power of ten. -/
def Decimal.ofParts (negative : Bool) (whole fraction : List Char) (power : Int) : Decimal :=
  ⟨negative, natOfDigits (whole ++ fraction), power - fraction.length⟩

/-- Digits, with a point before, among or after them, and an optional power of ten, to the end of
the text. -/
def readDecimal? (negative : Bool) (s : List Char) : Option Decimal :=
  let (whole, r) := takeDigits s
  let (fraction, r) :=
    match r with
    | '.' :: r => takeDigits r
    | _ => ([], r)
  if whole.isEmpty && fraction.isEmpty then none
  else
    match r with
    | [] => some (.ofParts negative whole fraction 0)
    | c :: r =>
      if c == 'e' || c == 'E' then
        match takePower? r with
        | some (power, []) => some (.ofParts negative whole fraction power)
        | _ => none
      else none

/-- Reads a number as people type it. -/
def readExtended? (s : List Char) : Option Extended :=
  let (negative, r) := takeSign s
  match readDecimal? negative r with
  | some d => some d.nearest
  | none =>
    let word := r.map Char.toLower
    if word == ['n', 'a', 'n'] then some .nan
    else if word == ['i', 'n', 'f'] || word == ['i', 'n', 'f', 'i', 'n', 'i', 't', 'y'] then
      some (.infinite negative)
    else none

/-! ### Whole numbers of a range -/

/-- Why a text is no whole number of the range asked for. -/
inductive IntegerFault where
  | empty
  | invalidDigit
  | tooLarge
  | tooSmall
deriving DecidableEq, Repr

/-- The wording of the fault. -/
def IntegerFault.message : IntegerFault → String
  | .empty => "cannot parse integer from empty string"
  | .invalidDigit => "invalid digit found in string"
  | .tooLarge => "number too large to fit in target type"
  | .tooSmall => "number too small to fit in target type"

/-- Reads digits onto `n`; the first place where the text stops being a number of at most `bound`
decides the fault. -/
def readMagnitude (bound : Nat) (outOfRange : IntegerFault) :
    Nat → List Char → Except IntegerFault Nat
  | n, [] => .ok n
  | n, c :: r =>
    if c.isDigit then
      let m := 10 * n + (c.toNat - 48)
      if bound < m then .error outOfRange else readMagnitude bound outOfRange m r
    else .error .invalidDigit

/-- A range of whole numbers.  Only a range with negative members takes a minus sign. -/
structure IntegerRange where
  /-- How far the range goes below zero. -/
  below : Nat
  /-- How far the range goes above zero. -/
  above : Nat

/-- Signed 64-bit words. -/
def IntegerRange.signed64 : IntegerRange := ⟨2 ^ 63, 2 ^ 63 - 1⟩

/-- Unsigned 64-bit words. -/
def IntegerRange.unsigned64 : IntegerRange := ⟨0, 2 ^ 64 - 1⟩

/-- Reads a whole number: an optional sign and digits, nothing else. -/
def readInteger (range : IntegerRange) (s : List Char) : Except IntegerFault Int :=
  match s with
  | [] => .error .empty
  | '+' :: d :: r => (readMagnitude range.above .tooLarge 0 (d :: r)).map Int.ofNat
  | '-' :: d :: r =>
    if range.below = 0 then .error .invalidDigit
    else (readMagnitude range.below .tooSmall 0 (d :: r)).map (fun n => -Int.ofNat n)
  | s => (readMagnitude range.above .tooLarge 0 s).map Int.ofNat

end ShowControl.Number
