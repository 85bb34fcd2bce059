import ProgramGuide.Text.Numeral

/-!
# Calendar dates

A date is the number of days since 1970-01-01 in the Gregorian calendar, carried on
before its introduction and through the year 0.  Year, month and day are a view of
that number.
-/

namespace ProgramGuide

structure Date where
  epochDay : Int
  deriving DecidableEq, Repr

structure CivilDate where
  year : Int
  month : Nat
  day : Nat
  deriving DecidableEq, Repr

namespace CivilDate

def isLeap (year : Int) : Bool :=
  year % 4 == 0 && (year % 100 != 0 || year % 400 == 0)

def monthLengths (year : Int) : List Nat :=
  [31, if isLeap year then 29 else 28, 31, 30, 31, 30, 31, 31, 30, 31, 30, 31]

/-- The days from 0001-01-01 to the first of January of a year. -/
def daysBeforeYear (year : Int) : Int :=
  365 * (year - 1) + (year - 1) / 4 - (year - 1) / 100 + (year - 1) / 400

def isValid (c : CivilDate) : Bool :=
  match (monthLengths c.year)[c.month - 1]? with
  | some length => 1 ≤ c.month && 1 ≤ c.day && c.day ≤ length
  | none => false

end CivilDate

namespace Date

/-- The days from 0001-01-01 to 1970-01-01. -/
def epochOffset : Int := 719162

def ofCivil (c : CivilDate) : Date :=
  ⟨CivilDate.daysBeforeYear c.year +
    (((CivilDate.monthLengths c.year).take (c.month - 1)).foldr (· + ·) 0 +
      (c.day - 1) : Nat) -
    epochOffset⟩

def yearOf (day : Int) : Int :=
  let estimate := day * 400 / 146097 + 1
  if day < CivilDate.daysBeforeYear estimate then estimate - 1
  else if CivilDate.daysBeforeYear (estimate + 1) ≤ day then estimate + 1
  else estimate

def monthAndDay : List Nat → Nat → Nat → Nat × Nat
  | [], month, day => (month, day + 1)
  | length :: rest, month, day =>
      if day < length then (month, day + 1)
      else monthAndDay rest (month + 1) (day - length)

def civil (d : Date) : CivilDate :=
  let day := d.epochDay + epochOffset
  let year := yearOf day
  let (month, dayOfMonth) :=
    monthAndDay (CivilDate.monthLengths year) 1
      (day - CivilDate.daysBeforeYear year).toNat
  ⟨year, month, dayOfMonth⟩

def year (d : Date) : Int := d.civil.year

def first : Date := ofCivil ⟨-262143, 1, 1⟩

def last : Date := ofCivil ⟨262142, 12, 31⟩

def inRange (d : Date) : Bool :=
  first.epochDay ≤ d.epochDay && d.epochDay ≤ last.epochDay

def ofCivil? (c : CivilDate) : Option Date :=
  if c.isValid && -262143 ≤ c.year && c.year ≤ 262142 then some (ofCivil c) else none

/-- Four digits from year 0 to 9999; beyond these a sign and at least four. -/
def yearText (year : Int) : List Char :=
  if 0 ≤ year && year ≤ 9999 then Text.padded 4 year.toNat
  else (if year < 0 then '-' else '+') :: Text.padded 4 year.natAbs

def text (d : Date) : String :=
  let c := d.civil
  String.ofList
    (yearText c.year ++ '-' :: Text.padded 2 c.month ++ '-' :: Text.padded 2 c.day)

def min (a b : Date) : Date := if b.epochDay < a.epochDay then b else a

def max (a b : Date) : Date := if b.epochDay < a.epochDay then a else b

/-- The dates from `a` to `b`, both included.  Nothing follows the last date there
is, and it is not listed. -/
def upTo (a b : Date) : List Date :=
  let stop := Min.min b.epochDay (last.epochDay - 1)
  (List.range (stop - a.epochDay + 1).toNat).map fun k : Nat => ⟨a.epochDay + (k : Int)⟩

end Date

end ProgramGuide
