/-
The shortest decimal text of a double.

Of the decimal grids 10^p the coarsest one is taken that has a point which reads back as the
double; since the points that read back lie in one small interval, a coarser grid means fewer
digits.  If the point below and the point above both read back, the nearer one is taken, and the
one with an even last digit when both are equally near.

How the digits are laid out is a `Layout`: between which powers of ten a number is written
plainly.  A point with a digit on both sides, or a power with its sign, is always written, so the
text never reads as a whole number.
-/
import ShowControl.Number.Decimal

namespace ShowControl.Number

/-- The value of `n` steps in units of 10^p, as a numerator and a denominator. -/
def inUnits (n : Nat) (p : Int) : Nat × Nat :=
  if 0 ≤ p then (n, one * 10 ^ p.toNat) else (n * 10 ^ (-p).toNat, one)

/-- Whether a decimal number is read as the double of `n` steps. -/
def readsBack (n : Nat) (d : Decimal) : Bool := nearestSteps d.steps.1 d.steps.2 == n

/-- The point of the grid 10^p nearest to `n` steps, among the points that read back. -/
def gridPoint? (n : Nat) (p : Int) : Option Decimal :=
  let (num, den) := inUnits n p
  let below : Decimal := ⟨false, num / den, p⟩
  let above : Decimal := ⟨false, num / den + 1, p⟩
  match readsBack n below, readsBack n above with
  | true, true => some (if roundHalfEven num den = below.digits then below else above)
  | true, false => some below
  | false, true => some above
  | false, false => none

/-- A power of ten whose grid, and every coarser one, is too coarse for `n` steps or just fits. -/
def coarsest (n : Nat) : Int :=
  let bits := n.log2 + 1
  if 1074 ≤ bits then (((bits - 1074) * 31 / 100 + 1 : Nat) : Int)
  else -(((1074 - bits) * 3 / 10 : Nat) : Int)

/-- The first grid from 10^p downwards with a point that reads back.  All doubles are points of the
grid 10^-1074, where the search ends at the latest. -/
def finerUntilBack (n : Nat) : Nat → Int → Decimal
  | 0, _ => ⟨false, n * 5 ^ 1074, -1074⟩
  | grids + 1, p => (gridPoint? n p).getD (finerUntilBack n grids (p - 1))

/-- The decimal number with the fewest digits that reads back as `n` steps. -/
def shortest (n : Nat) : Decimal :=
  finerUntilBack n (coarsest n + 1074).toNat (coarsest n)

/-- How a decimal number is laid out. -/
structure Layout where
  /-- The least power of ten of a first digit that is still written plainly. -/
  plainFrom : Int
  /-- The first power of ten of a first digit that is no longer written plainly. -/
  plainBelow : Int

namespace Layout

/-- Digits with a point: the first digit stands for 10^power. -/
def plain (ds : List Char) (power : Int) : List Char :=
  if power < 0 then '0' :: '.' :: (List.replicate (-power - 1).toNat '0' ++ ds)
  else
    let whole := power.toNat + 1
    if ds.length ≤ whole then
      ds ++ (List.replicate (whole - ds.length) '0' ++ ['.', '0'])
    else ds.take whole ++ '.' :: ds.drop whole

/-- One digit, the others after a point, and the power with its sign. -/
def scientific (ds : List Char) (power : Int) : List Char :=
  let front :=
    match ds with
    | d :: e :: r => d :: '.' :: e :: r
    | ds => ds
  front ++ 'e' :: (if power < 0 then '-' else '+') :: natText power.natAbs

/-- The text of a magnitude in steps. -/
def magnitude (l : Layout) (n : Nat) : List Char :=
  if n = 0 then ['0', '.', '0']
  else
    let d := shortest n
    let ds := natText d.digits
    let power := d.exponent + ds.length - 1
    if l.plainFrom ≤ power ∧ power < l.plainBelow then plain ds power else scientific ds power

/-- The text of a finite double. -/
def write (l : Layout) (x : Binary64) : List Char :=
  if x.negative then '-' :: l.magnitude x.steps else l.magnitude x.steps

end Layout

end ShowControl.Number
