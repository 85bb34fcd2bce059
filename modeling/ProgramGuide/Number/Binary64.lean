import ProgramGuide.Text.Numeral

/-!
# Double-precision numbers

A double is kept as its sign and its magnitude: the 63 bits below the sign bit read
as a natural number.  Magnitudes order as the absolute values they stand for, the
infinity is one of them and the NaNs lie above it.  Arithmetic is exact on ratios of
naturals and rounds once, to nearest with ties to even.
-/

namespace ProgramGuide

structure Binary64 where
  negative : Bool
  magnitude : Nat
  deriving DecidableEq, Repr

namespace Binary64

def zero : Binary64 := ⟨false, 0⟩

def infiniteMagnitude : Nat := 0x7FF * Nat.pow 2 52

def nan : Binary64 := ⟨false, infiniteMagnitude + Nat.pow 2 51⟩

def isZero (x : Binary64) : Bool := x.magnitude == 0

def isInfinite (x : Binary64) : Bool := x.magnitude == infiniteMagnitude

def isNaN (x : Binary64) : Bool := infiniteMagnitude < x.magnitude

def abs (x : Binary64) : Binary64 := ⟨false, x.magnitude⟩

def neg (x : Binary64) : Binary64 := ⟨!x.negative, x.magnitude⟩

def bits (x : Binary64) : Nat := (if x.negative then Nat.pow 2 63 else 0) + x.magnitude

def hexBits (x : Binary64) : String := String.ofList (Text.paddedHex 16 x.bits)

/-- A total order on all bit patterns: by value, with the negative zero below the
positive one and each NaN beyond the infinity of its sign. -/
def orderKey (x : Binary64) : Int :=
  if x.negative then -(x.magnitude : Int) - 1 else x.magnitude

/-! ## Magnitudes as ratios -/

/-- A magnitude `m` below the infinite one stands for `s * 2 ^ (e - 1074)`, where
`(s, e)` is this pair. -/
def significand (m : Nat) : Nat × Nat :=
  if m < Nat.pow 2 52 then (m, 0)
  else (Nat.pow 2 52 + m % Nat.pow 2 52, m / Nat.pow 2 52 - 1)

def ratio (m : Nat) : Nat × Nat :=
  let (s, e) := significand m
  if 1074 ≤ e then (s * Nat.pow 2 (e - 1074), 1) else (s, Nat.pow 2 (1074 - e))

/-- The exponent of the greatest power of two that does not exceed `n / d`, raised
by 1074 and cut at zero; zero for the ratio zero. -/
def raisedLog (n d : Nat) : Nat :=
  if n == 0 then 0 else
  let estimate := 1074 + Nat.log2 n - Nat.log2 d
  if n * Nat.pow 2 1074 < d * Nat.pow 2 estimate then estimate - 1 else estimate

def divideToEven (n d : Nat) : Nat :=
  let q := n / d
  let twice := 2 * (n % d)
  if d < twice || (d == twice && q % 2 == 1) then q + 1 else q

def nearest (n d : Nat) : Nat :=
  let e := raisedLog n d - 52
  min (e * Nat.pow 2 52 + divideToEven (n * Nat.pow 2 1074) (d * Nat.pow 2 e))
    infiniteMagnitude

/-! ## Arithmetic -/

def ofNat (n : Nat) : Binary64 := ⟨false, nearest n 1⟩

def ofInt (n : Int) : Binary64 := ⟨n < 0, nearest n.natAbs 1⟩

def mul (x y : Binary64) : Binary64 :=
  let sign := x.negative != y.negative
  if x.isNaN || y.isNaN then nan
  else if x.isInfinite || y.isInfinite then
    if x.isZero || y.isZero then nan else ⟨sign, infiniteMagnitude⟩
  else
    let (a, b) := ratio x.magnitude
    let (c, d) := ratio y.magnitude
    ⟨sign, nearest (a * c) (b * d)⟩

def div (x y : Binary64) : Binary64 :=
  let sign := x.negative != y.negative
  if x.isNaN || y.isNaN then nan
  else if x.isInfinite then if y.isInfinite then nan else ⟨sign, infiniteMagnitude⟩
  else if y.isInfinite then ⟨sign, 0⟩
  else if y.isZero then if x.isZero then nan else ⟨sign, infiniteMagnitude⟩
  else
    let (a, b) := ratio x.magnitude
    let (c, d) := ratio y.magnitude
    ⟨sign, nearest (a * d) (b * c)⟩

/-- The value of a finite double over the denominator `2 ^ 1074`. -/
def scaledValue (x : Binary64) : Int :=
  let (s, e) := significand x.magnitude
  if x.negative then -((s * Nat.pow 2 e : Nat) : Int) else ((s * Nat.pow 2 e : Nat) : Int)

def sub (x y : Binary64) : Binary64 :=
  if x.isNaN || y.isNaN then nan
  else if x.isInfinite then
    if y.isInfinite && x.negative == y.negative then nan else x
  else if y.isInfinite then y.neg
  else
    let difference := x.scaledValue - y.scaledValue
    if difference == 0 then ⟨x.negative && !y.negative, 0⟩
    else ⟨difference < 0, nearest difference.natAbs (Nat.pow 2 1074)⟩

end Binary64

end ProgramGuide
