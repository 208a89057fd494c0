/-
Instants written as dates with a time of day, in universal time. The Gregorian calendar is extended
to all years; a year outside 0 to 9999 is written with its sign. The part of a second is written in
thousands as far as needed, and left out when it is zero.
-/
import Gatehouse.Text.Integer
import Gatehouse.Time.Instant

namespace Gatehouse.Time

open Gatehouse.Text

/-- A day of the calendar. -/
structure Date where
  year : Int
  month : Nat
  day : Nat
  deriving DecidableEq, Repr

/-- The date of a day counted from 1 January 1970. Years are counted from March, so that a leap day
comes last; 400 of them have 146097 days. -/
def Date.ofDays (days : Int) : Date :=
  let shifted := days + 719468
  let era := shifted / 146097
  let dayOfEra := (shifted % 146097).toNat
  let yearOfEra := (dayOfEra - dayOfEra / 1460 + dayOfEra / 36524 - dayOfEra / 146096) / 365
  let dayOfYear := dayOfEra - (365 * yearOfEra + yearOfEra / 4 - yearOfEra / 100)
  let fromMarch := (5 * dayOfYear + 2) / 153
  let day := dayOfYear - (153 * fromMarch + 2) / 5 + 1
  let month := if fromMarch < 10 then fromMarch + 3 else fromMarch - 9
  let year := era * 400 + yearOfEra + (if month ≤ 2 then 1 else 0)
  ⟨year, month, day⟩

/-- A year in at least four digits, with its sign outside 0 to 9999. -/
def writeYear (year : Int) : List Char :=
  if 0 ≤ year ∧ year ≤ 9999 then Integer.padded 4 year.toNat
  else (if year < 0 then '-' else '+') :: Integer.padded 4 year.natAbs

/-- A part of a second after its point, in the fewest groups of three digits. -/
def writeSubsecond (nanos : Nat) : List Char :=
  if nanos = 0 then []
  else if nanos % 1000000 = 0 then '.' :: Integer.padded 3 (nanos / 1000000)
  else if nanos % 1000 = 0 then '.' :: Integer.padded 6 (nanos / 1000)
  else '.' :: Integer.padded 9 nanos

/-- The instant in universal time. -/
def Instant.write (t : Instant) : List Char :=
  let date := Date.ofDays (t.seconds / 86400)
  let second := (t.seconds % 86400).toNat
  writeYear date.year ++ '-' :: Integer.padded 2 date.month ++ '-' :: Integer.padded 2 date.day ++
    'T' :: Integer.padded 2 (second / 3600) ++ ':' :: Integer.padded 2 (second / 60 % 60) ++
    ':' :: Integer.padded 2 (second % 60) ++ writeSubsecond t.subsecond ++ ['Z']

/-- The text of an instant. -/
def Instant.render (t : Instant) : String := String.ofList t.write

end Gatehouse.Time
