import ProgramGuide.Number.Binary64

/-!
# The shortest decimal text of a double

Of all decimals that round to the double, the one with the fewest digits is
written; of several, the nearest; of two equally near, the one whose last digit is
even.
-/

namespace ProgramGuide.Binary64

/-- A rounding interval around a value: `low`, `value` and `high` over one
denominator; the ends belong to it when `closed` holds. -/
structure Interval where
  low : Nat
  value : Nat
  high : Nat
  denominator : Nat
  closed : Bool

/-- The reals that round to the magnitude `m`.  Below a power of two the doubles lie
twice as close. -/
def interval (m : Nat) : Interval :=
  let (s, e) := significand m
  let below := if s == Nat.pow 2 52 && e != 0 then 1 else 2
  let scale := if 1076 ≤ e then Nat.pow 2 (e - 1076) else 1
  { low := (4 * s - below) * scale
    value := 4 * s * scale
    high := (4 * s + 2) * scale
    denominator := if 1076 ≤ e then 1 else Nat.pow 2 (1076 - e)
    closed := s % 2 == 0 }

def Interval.holds (i : Interval) (step : Nat × Nat) (digits : Nat) : Bool :=
  let point := digits * step.1 * i.denominator
  let low := i.low * step.2
  let high := i.high * step.2
  if i.closed then low ≤ point && point ≤ high else low < point && point < high

def powerOfTen (p : Int) : Nat × Nat :=
  if 0 ≤ p then (Nat.pow 10 p.toNat, 1) else (1, Nat.pow 10 (-p).toNat)

/-- The multiple of `10 ^ p` that the interval holds, if there is one: of the two
neighbours of the value the nearer. -/
def Interval.onGrid? (i : Interval) (p : Int) : Option Nat :=
  let step := powerOfTen p
  let n := i.value * step.2
  let d := i.denominator * step.1
  let below := n / d
  let above := below + 1
  match i.holds step below, i.holds step above with
  | false, false => none
  | true, false => some below
  | false, true => some above
  | true, true =>
      let twice := 2 * (n % d)
      if twice < d || (twice == d && below % 2 == 0) then some below else some above

/-- The exponent of the greatest power of ten that does not exceed `n / d`, for a
ratio between the least and the greatest double. -/
def logTen (n d : Nat) : Int :=
  if d ≤ n then (Nat.toDigits 10 (n / d)).length - 1
  else
    let scaled := n * Nat.pow 10 330 / d
    ((Nat.toDigits 10 scaled).length : Int) - 331

def dropZeros : Nat → Nat → Int → Nat × Int
  | 0, digits, p => (digits, p)
  | steps + 1, digits, p =>
      if digits % 10 == 0 && digits != 0 then dropZeros steps (digits / 10) (p + 1)
      else (digits, p)

/-- The coarsest of the given grids that the interval meets; seventeen digits always
tell two doubles apart. -/
def Interval.firstOnGrids (i : Interval) : List Int → Nat × Int
  | [] => (i.value / i.denominator, 0)
  | p :: finer =>
      match i.onGrid? p with
      | some digits => dropZeros 17 digits p
      | none => firstOnGrids i finer

def shortest (m : Nat) : Nat × Int :=
  let i := interval m
  let top := logTen i.value i.denominator
  i.firstOnGrids ((List.range 18).map fun k : Nat => top - (k : Int))

/-- Digits `ds` with their last one at the decimal place `p`: positional from 1e-5 up
to below 1e16, with at least one digit on either side of the point, else in exponent
form with a signed exponent. -/
def layOut (ds : List Char) (p : Int) : List Char :=
  let exponent := p + ds.length - 1
  if 0 ≤ p && exponent ≤ 15 then ds ++ List.replicate p.toNat '0' ++ ['.', '0']
  else if 0 ≤ exponent && exponent ≤ 15 then
    ds.take (exponent.toNat + 1) ++ '.' :: ds.drop (exponent.toNat + 1)
  else if -5 ≤ exponent && exponent < 0 then
    '0' :: '.' :: List.replicate (-exponent - 1).toNat '0' ++ ds
  else
    let fraction := if ds.length == 1 then [] else '.' :: ds.drop 1
    let sign := if exponent < 0 then '-' else '+'
    ds.take 1 ++ fraction ++ 'e' :: sign :: Nat.toDigits 10 exponent.natAbs

def text (x : Binary64) : List Char :=
  let unsigned :=
    if x.isZero then ['0', '.', '0']
    else
      let (digits, p) := shortest x.magnitude
      layOut (Nat.toDigits 10 digits) p
  if x.negative then '-' :: unsigned else unsigned

end ProgramGuide.Binary64
