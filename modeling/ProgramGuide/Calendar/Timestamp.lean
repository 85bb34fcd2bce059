import ProgramGuide.Calendar.Instant
import ProgramGuide.Text.Blank
import ProgramGuide.Text.Case

/-!
# Texts of instants and dates

Instants are written as in RFC 3339, in UTC.  Reading is wider: numbers may be short
and stand behind blanks, the offset may be `UTC`, and fractions of any length are
cut after nine digits.
-/

namespace ProgramGuide

/-! ## Writing -/

namespace Instant

/-- The fewest of three, six or nine digits that lose nothing; none for zero. -/
def fractionText (nanos : Nat) : List Char :=
  if nanos == 0 then []
  else if nanos % 1000000 == 0 then '.' :: Text.padded 3 (nanos / 1000000)
  else if nanos % 1000 == 0 then '.' :: Text.padded 6 (nanos / 1000)
  else '.' :: Text.padded 9 nanos

/-- The time of day, where a leap second is second sixty of its minute. -/
def clockText (t : Instant) : List Char :=
  let ofDay := t.secondOfDay.toNat
  let (second, nanos) :=
    if t.isLeap then (ofDay % 60 + 1, t.nanos - billion) else (ofDay % 60, t.nanos)
  Text.padded 2 (ofDay / 3600) ++ ':' :: Text.padded 2 (ofDay / 60 % 60) ++
    ':' :: Text.padded 2 second ++ fractionText nanos

def text (t : Instant) : String :=
  t.date.text ++ "T" ++ String.ofList t.clockText ++ "Z"

def phrase (t : Instant) : String :=
  t.date.text ++ " " ++ String.ofList t.clockText ++ " UTC"

end Instant

/-! ## Reading numbers -/

namespace Timestamp

def spanDigits : Nat → List Char → List Char × List Char
  | 0, cs => ([], cs)
  | _ + 1, [] => ([], [])
  | n + 1, c :: cs =>
      if c.isDigit then
        let (digits, rest) := spanDigits n cs
        (c :: digits, rest)
      else ([], c :: cs)

def number? (width : Nat) (cs : List Char) : Option (Nat × List Char) :=
  match spanDigits width (Text.trimStart cs) with
  | ([], _) => none
  | (digits, rest) => some (Text.ofDigits digits, rest)

/-- Four digits at most, or a sign and any number of them. -/
def year? (cs : List Char) : Option (Int × List Char) :=
  match Text.trimStart cs with
  | '-' :: rest => signed rest (-1)
  | '+' :: rest => signed rest 1
  | rest => (number? 4 rest).map fun (n, rest) => ((n : Int), rest)
where
  signed (cs : List Char) (sign : Int) : Option (Int × List Char) :=
    match spanDigits cs.length cs with
    | ([], _) => none
    | (digits, rest) => some (sign * (Text.ofDigits digits : Int), rest)

def mark? (c : Char) : List Char → Option (List Char)
  | d :: cs => if d == c then some cs else none
  | [] => none

def spacedMark? (c : Char) (cs : List Char) : Option (List Char) :=
  mark? c (Text.trimStart cs)

/-! ## Reading instants -/

def fraction? : List Char → Option (Nat × List Char)
  | '.' :: cs =>
      match spanDigits 9 cs with
      | ([], _) => none
      | (digits, rest) =>
          some (Text.ofDigits digits * Nat.pow 10 (9 - digits.length),
            rest.dropWhile Char.isDigit)
  | cs => some (0, cs)

def twoDigits? : List Char → Option (Nat × List Char)
  | a :: b :: cs =>
      if a.isDigit && b.isDigit then some (Text.ofDigits [a, b], cs) else none
  | _ => none

/-- An offset from UTC in seconds: `Z`, `UTC` in any case, or a sign, two digits of
hours and two of minutes. -/
def offset? (cs : List Char) : Option (Int × List Char) :=
  if Text.foldCase (cs.take 3) == ['u', 't', 'c'] then some (0, cs.drop 3)
  else
    match cs with
    | 'Z' :: rest | 'z' :: rest => some (0, rest)
    | '+' :: rest => hoursAndMinutes rest 1
    | '-' :: rest | '−' :: rest => hoursAndMinutes rest (-1)
    | _ => none
where
  hoursAndMinutes (cs : List Char) (sign : Int) : Option (Int × List Char) := do
    let (hours, cs) ← twoDigits? cs
    let (minutes, cs) ← twoDigits? (cs.dropWhile fun c => c == ':' || Text.isBlank c)
    if minutes < 60 && hours < 24 then some (sign * (hours * 3600 + minutes * 60 : Nat), cs)
    else none

def date? (spaced : Bool) (cs : List Char) : Option (CivilDate × List Char) := do
  let dash := if spaced then spacedMark? '-' else mark? '-'
  let (year, cs) ← year? cs
  let cs ← dash cs
  let (month, cs) ← number? 2 cs
  let cs ← dash cs
  let (day, cs) ← number? 2 cs
  some (⟨year, month, day⟩, cs)

/-- Second of the day and nanoseconds; second sixty is the leap second. -/
def timeOfDay? (cs : List Char) : Option ((Nat × Nat) × List Char) := do
  let (hour, cs) ← number? 2 cs
  let cs ← spacedMark? ':' cs
  let (minute, cs) ← number? 2 cs
  let cs ← spacedMark? ':' cs
  let (second, cs) ← number? 2 cs
  let (nanos, cs) ← fraction? cs
  if 24 ≤ hour || 60 ≤ minute || 60 < second then none
  else if second == 60 then
    some ((hour * 3600 + minute * 60 + 59, nanos + Instant.billion), cs)
  else some ((hour * 3600 + minute * 60 + second, nanos), cs)

def instant? (cs : List Char) : Option Instant := do
  let (civil, cs) ← date? true cs
  let date ← Date.ofCivil? civil
  let cs ←
    match cs with
    | 't' :: cs | 'T' :: cs | ' ' :: cs => some cs
    | _ => none
  let ((second, nanos), cs) ← timeOfDay? cs
  let (offset, cs) ← offset? (Text.trimStart cs)
  let t : Instant := ⟨date.epochDay * 86400 + (second : Int) - offset, nanos⟩
  if cs.all Text.isBlank && t.inRange then some t else none

end Timestamp

def Instant.read? (s : String) : Option Instant := Timestamp.instant? s.toList

def Date.read? (cs : List Char) : Option Date :=
  match Timestamp.date? false cs with
  | some (civil, []) => Date.ofCivil? civil
  | _ => none

end ProgramGuide
