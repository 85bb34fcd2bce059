import ProgramGuide.Calendar.Date
import ProgramGuide.Number.Binary64
import ProgramGuide.Text.Search

/-!
# TOML scalars without quotes

Integers in four bases, floats, booleans, and dates and times of day.  Some numbers are
well formed but beyond all values; they are at fault only when they are looked at.
-/

namespace ProgramGuide.Toml

inductive Scalar where
  | integer (n : Int)
  | float
  | boolean (b : Bool)
  | datetime
  | beyond
  deriving DecidableEq, Repr

/-! ## Underscores -/

/-- Whether a part between underscores is bounded by digits: at its start unless it is the
first, at its end unless it is the last or a single character. -/
def isBounded (isDigit : Char → Bool) (isFirst isLast : Bool) (part : List Char) : Bool :=
  (isFirst || part.head?.any isDigit) &&
    (isLast || part.length == 1 || part.getLast?.any isDigit)

def areBounded (isDigit : Char → Bool) (isFirst : Bool) : List (List Char) → Bool
  | [] => true
  | part :: parts =>
      isBounded isDigit isFirst parts.isEmpty part && areBounded isDigit false parts

def withoutUnderscores? (isDigit : Char → Bool) (cs : List Char) : Option (List Char) :=
  let parts := Text.splitAt '_' cs
  if parts.length == 1 || areBounded isDigit true parts then some parts.flatten else none

/-! ## Integers -/

def isHexDigit (c : Char) : Bool := (Text.hexDigit? c).isSome

def ofBase? (base : Nat) (digits : List Char) : Option Nat :=
  if digits.isEmpty then none
  else
    digits.foldlM
      (fun n c => ((Text.hexDigit? c).filter (· < base)).map (base * n + ·)) 0

def Scalar.ofInteger? (n : Int) : Scalar :=
  if -Int.pow 2 127 ≤ n && n < Int.pow 2 128 then .integer n else .beyond

def based? (base : Nat) (cs : List Char) : Option Scalar :=
  if cs.all fun c => c == '_' || (Text.hexDigit? c).any (· < base) then
    (withoutUnderscores? isHexDigit cs).map fun digits =>
      match ofBase? base digits with
      | some n => .ofInteger? n
      | none => .beyond
  else none

/-- A whole number in tens, which may not start with a zero.  Behind an underscore and
a digit anything else may follow, but then there is no value. -/
def decimal? (negative : Bool) (cs : List Char) : Option Scalar :=
  if cs.head? == some '0' && cs.length != 1 then none
  else
    (withoutUnderscores? isHexDigit cs).map fun digits =>
      match Text.natural? digits with
      | some n => .ofInteger? (if negative then -(n : Int) else n)
      | none => .beyond

/-! ## Floats -/

def digitsAtStart? (cs : List Char) : Option (List Char × List Char) :=
  let isPart (c : Char) := c.isDigit || c == '_'
  let run := cs.takeWhile isPart
  if run.any Char.isDigit then some (run.filter Char.isDigit, cs.dropWhile isPart) else none

structure Decimal where
  whole : List Char
  fraction : List Char
  exponent : Int
  deriving DecidableEq, Repr

def exponent? (cs : List Char) : Option (Int × List Char) :=
  match cs with
  | '-' :: cs => (digitsAtStart? cs).map fun (n, cs) => (-(Text.ofDigits n : Int), cs)
  | '+' :: cs => (digitsAtStart? cs).map fun (n, cs) => ((Text.ofDigits n : Int), cs)
  | cs => (digitsAtStart? cs).map fun (n, cs) => ((Text.ofDigits n : Int), cs)

def Decimal.read? (cs : List Char) : Option Decimal := do
  let (whole, rest) ← digitsAtStart? cs
  if cs.head? == some '0' && 1 < whole.length then none
  let (fraction, rest) ←
    match rest with
    | '.' :: rest => digitsAtStart? rest
    | rest => some ([], rest)
  let (exponent, rest) ←
    match rest with
    | 'e' :: rest | 'E' :: rest => exponent? rest
    | rest => some (0, rest)
  if rest.isEmpty then some ⟨whole, fraction, exponent⟩ else none

/-- No number below this power of ten is beyond the doubles, and every number of one digit
more is. -/
def greatestFloatPower : Int := 308

def Decimal.isBeyond (d : Decimal) : Bool :=
  let digits := (d.whole ++ d.fraction).dropWhile (· == '0')
  let exponent := d.exponent - d.fraction.length
  let power := digits.length + exponent
  if digits.isEmpty || power ≤ greatestFloatPower then false
  else if greatestFloatPower + 1 < power then true
  else
    let n := Text.ofDigits digits
    let magnitude :=
      if exponent < 0 then Binary64.nearest n (Nat.pow 10 exponent.natAbs)
      else Binary64.nearest (n * Nat.pow 10 exponent.natAbs) 1
    magnitude == Binary64.infiniteMagnitude

def float? (cs : List Char) : Option Scalar := do
  let d ← Decimal.read? cs
  let _ ← withoutUnderscores? Char.isDigit cs
  return if d.isBeyond then .beyond else .float

/-! ## Dates and times -/

def twoDigits? : List Char → Option (Nat × List Char)
  | a :: b :: cs =>
      if a.isDigit && b.isDigit then some (Text.ofDigits [a, b], cs) else none
  | _ => none

def date? (cs : List Char) : Option (List Char) := do
  let (century, cs) ← twoDigits? cs
  let (year, cs) ← twoDigits? cs
  match cs with
  | '-' :: cs =>
      let (month, cs) ← twoDigits? cs
      match cs with
      | '-' :: cs =>
          let (day, cs) ← twoDigits? cs
          if (⟨100 * century + year, month, day⟩ : CivilDate).isValid then some cs else none
      | _ => none
  | _ => none

def time? (cs : List Char) : Option (List Char) := do
  let (hour, cs) ← twoDigits? cs
  match cs with
  | ':' :: cs =>
      let (minute, cs) ← twoDigits? cs
      if 24 ≤ hour || 60 ≤ minute then none
      match cs with
      | ':' :: cs =>
          let (second, cs) ← twoDigits? cs
          if 60 < second then none
          match cs with
          | '.' :: c :: cs => if c.isDigit then some (cs.dropWhile Char.isDigit) else none
          | cs => some cs
      | cs => some cs
  | _ => none

def isOffset : List Char → Bool
  | [] => true
  | ['Z'] | ['z'] => true
  | [sign, a, b, ':', c, d] =>
      (sign == '+' || sign == '-') && [a, b, c, d].all Char.isDigit &&
        Text.ofDigits [a, b] < 24 && Text.ofDigits [c, d] < 60
  | _ => false

def isDateMark (c : Char) : Bool := c == 'T' || c == 't' || c == ' '

def isDatetime (cs : List Char) : Bool :=
  match date? cs with
  | some [] => true
  | some (c :: cs) => isDateMark c && (time? cs).any isOffset
  | none => time? cs == some []

/-! ## All scalars -/

/-- A number without sign, in tens; what stands behind its first digits decides which. -/
def number? (negative : Bool) (cs : List Char) : Option Scalar :=
  match cs.dropWhile Char.isDigit with
  | [] => decimal? negative cs
  | c :: rest =>
      if rest.contains ' ' then none
      else if (c :: rest).any fun c => c == '.' || c == 'e' || c == 'E' then float? cs
      else if c == '_' then decimal? negative cs
      else none

def signed? (negative : Bool) (cs : List Char) : Option Scalar :=
  match cs with
  | ['i', 'n', 'f'] | ['n', 'a', 'n'] => some .float
  | c :: _ => if c.isDigit then number? negative cs else none
  | [] => none

def unsigned? (cs : List Char) : Option Scalar :=
  match cs.dropWhile Char.isDigit with
  | '-' :: _ | ':' :: _ => if isDatetime cs then some .datetime else none
  | _ => signed? false cs

def Scalar.read? (cs : List Char) : Option Scalar :=
  match cs with
  | ['t', 'r', 'u', 'e'] => some (.boolean true)
  | ['f', 'a', 'l', 's', 'e'] => some (.boolean false)
  | '0' :: 'x' :: cs => based? 16 cs
  | '0' :: 'o' :: cs => based? 8 cs
  | '0' :: 'b' :: cs => based? 2 cs
  | '+' :: cs => signed? false cs
  | '-' :: cs => signed? true cs
  | c :: rest => if c == '-' then none else unsigned? (c :: rest)
  | [] => none

end ProgramGuide.Toml
