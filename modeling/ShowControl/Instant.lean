/-
Moments in time.

An instant counts nanoseconds from the start of 1970.  It is written as a date and a time of day
in the form of RFC 3339, with as many groups of three fractional digits as it needs.
-/
import ShowControl.Json.Value

namespace ShowControl

/-- A moment, in nanoseconds from the start of 1970. -/
structure Instant where
  nanos : Int
deriving DecidableEq

namespace Instant

/-- Nanoseconds in a second. -/
def second : Int := 1000000000

/-- How long ago `since` was, in whole milliseconds; a moment to come counts as now. -/
def ageMillis (now since : Instant) : Nat := ((now.nanos - since.nanos).tdiv 1000000).toNat

/-- Year, month and day of a day counted from the start of 1970.  Days are counted from the first
of March of the year 0, so that the leap day is the last day of its year, in cycles of 400 years. -/
def date (day : Int) : Int × Nat × Nat :=
  let shifted := day + 719468
  let cycle := shifted.fdiv 146097
  let d := (shifted.fmod 146097).toNat
  let year := (d - d / 1460 + d / 36524 - d / 146096) / 365
  let ofYear := d - (365 * year + year / 4 - year / 100)
  let month := (5 * ofYear + 2) / 153
  let ofMonth := ofYear - (153 * month + 2) / 5
  let calendar := if month < 10 then month + 3 else month - 9
  ((year : Int) + cycle * 400 + (if calendar ≤ 2 then 1 else 0), calendar, ofMonth + 1)

/-- A number with leading zeros to at least `width` digits. -/
def padded (width n : Nat) : List Char :=
  let ds := Number.natText n
  List.replicate (width - ds.length) '0' ++ ds

/-- The fraction of a second, with three, six or nine digits, or none at all. -/
def fraction (nanos : Nat) : List Char :=
  if nanos = 0 then []
  else if nanos % 1000000 = 0 then '.' :: padded 3 (nanos / 1000000)
  else if nanos % 1000 = 0 then '.' :: padded 6 (nanos / 1000)
  else '.' :: padded 9 nanos

/-- The text of a moment, such as `2024-05-01T12:34:56.789Z`. -/
def text (t : Instant) : String :=
  let seconds := t.nanos.fdiv second
  let (year, month, day) := date (seconds.fdiv 86400)
  let clock := (seconds.fmod 86400).toNat
  String.ofList <|
    padded 4 year.toNat ++ '-' :: padded 2 month ++ '-' :: padded 2 day ++
      'T' :: padded 2 (clock / 3600) ++ ':' :: padded 2 (clock / 60 % 60) ++
      ':' :: padded 2 (clock % 60) ++ fraction (t.nanos.fmod second).toNat ++ ['Z']

/-- A moment in an answer. -/
def json (t : Instant) : Json := .string t.text

end Instant

end ShowControl
