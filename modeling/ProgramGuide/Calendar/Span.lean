import ProgramGuide.Text.Blank
import ProgramGuide.Text.Numeral
import ProgramGuide.Text.Bytes

/-!
# Spans of time

A span is a number of seconds and of nanoseconds.  In text it is a sum of amounts
with units; a year is 365.25 days and a month 30.44.
-/

namespace ProgramGuide

structure Span where
  seconds : Nat
  nanos : Nat
  deriving DecidableEq, Repr

namespace Span

/-- Seconds and amounts are words of 64 bits. -/
def wordLimit : Nat := Nat.pow 2 64

def billion : Nat := 1000000000

def zero : Span := ⟨0, 0⟩

def ofSeconds (n : Nat) : Span := ⟨n, 0⟩

def ofMilliseconds (n : Nat) : Span := ⟨n / 1000, n % 1000 * 1000000⟩

def isZero (s : Span) : Bool := s.seconds == 0 && s.nanos == 0

/-- The span in nanoseconds, at most `2 ^ 63 - 1` milliseconds long. -/
def window (s : Span) : Int :=
  let limit : Nat := (Nat.pow 2 63 - 1) * 1000000
  (min (s.seconds * billion + s.nanos) limit : Nat)

/-! ## Writing -/

def counted (n : Nat) (unit : String) : List String :=
  if n == 0 then [] else [Text.natural n ++ unit ++ (if 1 < n then "s" else "")]

def measured (n : Nat) (unit : String) : List String :=
  if n == 0 then [] else [Text.natural n ++ unit]

def parts (s : Span) : List String :=
  let inYear := s.seconds % 31557600
  let inMonth := inYear % 2630016
  let inDay := inMonth % 86400
  counted (s.seconds / 31557600) "year" ++ counted (inYear / 2630016) "month" ++
    counted (inMonth / 86400) "day" ++ measured (inDay / 3600) "h" ++
    measured (inDay % 3600 / 60) "m" ++ measured (inDay % 60) "s" ++
    measured (s.nanos / 1000000) "ms" ++ measured (s.nanos / 1000 % 1000) "us" ++
    measured (s.nanos % 1000) "ns"

def text (s : Span) : String :=
  if s.isZero then "0s" else String.intercalate " " s.parts

/-! ## Units -/

inductive TimeUnit where
  | nanosecond | microsecond | millisecond
  | second | minute | hour | day | week | month | year
  deriving DecidableEq, Repr

namespace TimeUnit

def ofName? (name : List Char) : Option TimeUnit :=
  (names.find? fun entry => entry.1.any (·.toList == name)).map (·.2)
where
  names : List (List String × TimeUnit) :=
    [(["nanos", "nsec", "ns"], .nanosecond),
     (["usec", "us", "µs"], .microsecond),
     (["millis", "msec", "ms"], .millisecond),
     (["seconds", "second", "secs", "sec", "s"], .second),
     (["minutes", "minute", "min", "mins", "m"], .minute),
     (["hours", "hour", "hr", "hrs", "h"], .hour),
     (["days", "day", "d"], .day),
     (["weeks", "week", "wk", "wks", "w"], .week),
     (["months", "month", "M"], .month),
     (["years", "year", "yr", "yrs", "y"], .year)]

/-- The unit as a number of nanoseconds, or of seconds (the first is then false). -/
def measure : TimeUnit → Bool × Nat
  | .nanosecond => (true, 1)
  | .microsecond => (true, 1000)
  | .millisecond => (true, 1000000)
  | .second => (false, 1)
  | .minute => (false, 60)
  | .hour => (false, 3600)
  | .day => (false, 86400)
  | .week => (false, 604800)
  | .month => (false, 2630016)
  | .year => (false, 31557600)

/-- What a fraction of the unit must be a whole number of: nanoseconds up to minutes,
else seconds.  A nanosecond has no fractions. -/
def fractionMeasure? : TimeUnit → Option (Bool × Nat)
  | .nanosecond => none
  | .second => some (true, 1000000000)
  | .minute => some (true, 60000000000)
  | unit => some unit.measure

end TimeUnit

/-! ## Reading -/

inductive Fault where
  | empty
  | numberExpected (offset : Nat)
  | invalidCharacter (offset : Nat)
  | unitNeeded (amount : Nat)
  | unknownUnit (name : String)
  | outOfRange
  deriving DecidableEq, Repr

def Fault.message : Fault → String
  | .empty => "value was empty"
  | .numberExpected offset => "expected number at " ++ Text.natural offset
  | .invalidCharacter offset => "invalid character at " ++ Text.natural offset
  | .unitNeeded n =>
      "time unit needed, for example " ++ Text.natural n ++ "sec or " ++ Text.natural n ++
        "ms"
  | .unknownUnit name =>
      "unknown time unit \"" ++ name ++ "\", supported units: ns, us/µs, ms, sec, min, " ++
        "hours, days, weeks, months, years (and few variations)"
  | .outOfRange =>
      "number is too large or cannot be represented without a lack of precision " ++
        "(values below 1ns are not supported)"

def word (n : Nat) : Except Fault Nat := if n < wordLimit then .ok n else .error .outOfRange

def plus (total : Span) (seconds nanos : Nat) : Except Fault Span := do
  let nanos ← word (total.nanos + nanos)
  let seconds ← word (total.seconds + seconds + nanos / billion)
  return ⟨seconds, nanos % billion⟩

def plusMeasured (total : Span) (amount : Bool × Nat) : Except Fault Span :=
  if amount.1 then total.plus 0 amount.2 else total.plus amount.2 0

/-- Digits behind the point: their value and the power of ten that divides it. -/
structure Fraction where
  numerator : Nat
  denominator : Nat
  deriving DecidableEq, Repr

def addAmount (total : Span) (n : Nat) (fraction : Option Fraction) (name : List Char) :
    Except Fault Span := do
  if name.isEmpty then throw (.unitNeeded n)
  let some unit := TimeUnit.ofName? name | throw (.unknownUnit (String.ofList name))
  let (isNanos, size) := unit.measure
  let total ← total.plusMeasured (isNanos, ← word (n * size))
  match fraction with
  | none => return total
  | some ⟨numerator, denominator⟩ =>
      let some (isNanos, size) := unit.fractionMeasure? | throw .outOfRange
      let amount ← word (numerator * size)
      if amount % denominator != 0 then throw .outOfRange
      total.plusMeasured (isNanos, amount / denominator)

inductive Place where
  | amount (since : Nat) (isFirst : Bool)
  | digits (n : Nat)
  | fraction (n : Nat) (read : Fraction) (offset : Nat)
  | unit (n : Nat) (fraction : Option Fraction) (reversedName : List Char)
  deriving DecidableEq, Repr

def isUnitLetter (c : Char) : Bool := c.isAlpha || c == 'µ'

/-- Reads on from a place, at a byte offset.  Blanks may stand between the digits of a
number; a unit ends at a digit or a blank. -/
def readFrom (place : Place) (total : Span) (offset : Nat) :
    List Char → Except Fault Span
  | [] =>
      match place with
      | .amount _ isFirst => if isFirst then .error .empty else .ok total
      | .digits n => total.addAmount n none []
      | .fraction n read mark =>
          if read.denominator == 1 then .error (.invalidCharacter mark)
          else total.addAmount n (some read) []
      | .unit n fraction name => total.addAmount n fraction name.reverse
  | c :: cs =>
      let next := offset + c.utf8Size
      match place with
      | .amount since isFirst =>
          if c.isDigit then readFrom (.digits (Text.digitValue c)) total next cs
          else if Text.isBlank c then readFrom (.amount since isFirst) total next cs
          else .error (.numberExpected since)
      | .digits n =>
          if c.isDigit then do
            let n ← word (10 * n + Text.digitValue c)
            readFrom (.digits n) total next cs
          else if Text.isBlank c then readFrom (.digits n) total next cs
          else if isUnitLetter c then readFrom (.unit n none [c]) total next cs
          else if c == '.' then readFrom (.fraction n ⟨0, 1⟩ offset) total next cs
          else .error (.invalidCharacter offset)
      | .fraction n read mark =>
          if c.isDigit then do
            let denominator ← word (10 * read.denominator)
            let numerator ← word (10 * read.numerator + Text.digitValue c)
            readFrom (.fraction n ⟨numerator, denominator⟩ next) total next cs
          else if Text.isBlank c then readFrom (.fraction n read next) total next cs
          else if isUnitLetter c && read.denominator != 1 then
            readFrom (.unit n (some read) [c]) total next cs
          else .error (.invalidCharacter mark)
      | .unit n fraction name =>
          if c.isDigit then do
            let total ← total.addAmount n fraction name.reverse
            readFrom (.digits (Text.digitValue c)) total next cs
          else if Text.isBlank c then do
            let total ← total.addAmount n fraction name.reverse
            readFrom (.amount next false) total next cs
          else if isUnitLetter c then readFrom (.unit n fraction (c :: name)) total next cs
          else .error (.invalidCharacter offset)

def read (s : String) : Except Fault Span :=
  if s == "0" then .ok zero else readFrom (.amount 0 true) zero 0 s.toList

end Span

end ProgramGuide
