import ProgramGuide.Number.Shortest

/-!
# JSON numbers

A number without point or exponent that fits in a signed or an unsigned word of 64
bits is an integer; any other number is a double.  The digits of a double are read
into an unsigned word as far as they fit, and this word is scaled once by a power of
ten.
-/

namespace ProgramGuide.Json

inductive Number where
  | integer (n : Int)
  | real (x : Binary64)
  deriving DecidableEq, Repr

namespace Number

def text : Number → List Char
  | .integer n => (Text.integer n).toList
  | .real x => x.text

def toBinary64 : Number → Binary64
  | .integer n => Binary64.ofInt n
  | .real x => x

/-! ## Literals -/

structure Literal where
  negative : Bool
  whole : List Char
  fraction : Option (List Char)
  exponent : Option Int
  deriving DecidableEq, Repr

def digits? (cs : List Char) : Option (List Char × List Char) :=
  let digits := cs.takeWhile Char.isDigit
  if digits.isEmpty then none else some (digits, cs.dropWhile Char.isDigit)

def whole? (cs : List Char) : Option (List Char × List Char) :=
  (digits? cs).filter fun (digits, _) => digits.head? != some '0' || digits.length == 1

def fraction? (cs : List Char) : Option (Option (List Char) × List Char) :=
  match cs with
  | '.' :: cs => (digits? cs).map fun (digits, cs) => (some digits, cs)
  | cs => some (none, cs)

def signedExponent? (cs : List Char) : Option (Int × List Char) :=
  match cs with
  | '+' :: cs => (digits? cs).map fun (digits, cs) => ((Text.ofDigits digits : Int), cs)
  | '-' :: cs => (digits? cs).map fun (digits, cs) => (-(Text.ofDigits digits : Int), cs)
  | cs => (digits? cs).map fun (digits, cs) => ((Text.ofDigits digits : Int), cs)

def exponent? (cs : List Char) : Option (Option Int × List Char) :=
  match cs with
  | 'e' :: cs | 'E' :: cs => (signedExponent? cs).map fun (n, cs) => (some n, cs)
  | cs => some (none, cs)

def splitMinus : List Char → Bool × List Char
  | '-' :: cs => (true, cs)
  | cs => (false, cs)

/-- The longest number literal at the start of a text, and the rest: no leading zeros, and
a digit on either side of the point. -/
def Literal.scan? (cs : List Char) : Option (Literal × List Char) := do
  let (negative, cs) := splitMinus cs
  let (whole, cs) ← whole? cs
  let (fraction, cs) ← fraction? cs
  let (exponent, cs) ← exponent? cs
  return (⟨negative, whole, fraction, exponent⟩, cs)

/-- An unsigned word and a power of ten. -/
structure Scaled where
  word : Nat
  exponent : Int
  deriving DecidableEq, Repr

def fitsWord (n : Nat) : Bool := n < Nat.pow 2 64

/-- Digits before the point.  From the first one that does not fit, they only count. -/
def wholeDigits (word : Nat) : List Char → Scaled
  | [] => ⟨word, 0⟩
  | c :: cs =>
      let longer := 10 * word + Text.digitValue c
      if fitsWord longer then wholeDigits longer cs else ⟨word, (c :: cs).length⟩

/-- Digits behind the point.  From the first one that does not fit, they are dropped. -/
def fractionDigits (s : Scaled) : List Char → Scaled
  | [] => s
  | c :: cs =>
      let longer := 10 * s.word + Text.digitValue c
      if fitsWord longer then fractionDigits ⟨longer, s.exponent - 1⟩ cs else s

def greatestPower : Nat := 308

/-- Divides by a power of ten, in steps when that power is no double. -/
def divideByPower (x : Binary64) (k : Nat) : Binary64 :=
  if k ≤ greatestPower then x.div (Binary64.ofNat (Nat.pow 10 k))
  else if x.isZero then x
  else divideByPower (x.div (Binary64.ofNat (Nat.pow 10 greatestPower))) (k - greatestPower)
termination_by k
decreasing_by
  have : greatestPower = 308 := rfl
  omega

def Scaled.double? (s : Scaled) : Option Binary64 :=
  let x := Binary64.ofNat s.word
  if s.exponent < 0 then some (divideByPower x s.exponent.natAbs)
  else if s.exponent ≤ greatestPower then
    let y := x.mul (Binary64.ofNat (Nat.pow 10 s.exponent.toNat))
    if y.isInfinite then none else some y
  else if s.word == 0 then some x
  else none

def ofLiteral? (l : Literal) : Option Number :=
  let whole := wholeDigits 0 l.whole
  match l.fraction, l.exponent with
  | none, none =>
      if whole.exponent == 0 then
        if !l.negative then some (.integer whole.word)
        else if whole.word == 0 || Nat.pow 2 63 < whole.word then
          some (.real (Binary64.ofNat whole.word).neg)
        else some (.integer (-(whole.word : Int)))
      else signed l.negative whole
  | fraction, exponent =>
      let s := fractionDigits whole (fraction.getD [])
      signed l.negative ⟨s.word, s.exponent + exponent.getD 0⟩
where
  signed (negative : Bool) (s : Scaled) : Option Number :=
    s.double?.map fun x => .real (if negative then x.neg else x)

end Number

end ProgramGuide.Json
