import ProgramGuide.Text.Search

/-!
# Punycode

A label beyond ASCII is written as its ASCII characters, a hyphen, and the places and
codes of the others as differences in numbers of variable length.  The thresholds of
their digits follow the size of the differences before them.
-/

namespace ProgramGuide.Address.Punycode

def base : Nat := 36

def isWord (n : Nat) : Bool := n < Nat.pow 2 32

def digit? (c : Char) : Option Nat :=
  if c.isLower then some (c.toNat - 'a'.toNat)
  else if c.isUpper then some (c.toNat - 'A'.toNat)
  else if c.isDigit then some (c.toNat - '0'.toNat + 26)
  else none

/-- The digits below the threshold end a number. -/
def threshold (place bias : Nat) : Nat :=
  if place ≤ bias then 1 else min 26 (place - bias)

def scaled (delta bias : Nat) : Nat :=
  if 455 < delta then scaled (delta / 35) (bias + base)
  else bias + base * delta / (delta + 38)
termination_by delta
decreasing_by exact Nat.div_lt_self (by omega) (by omega)

def adapted (delta length : Nat) (isFirst : Bool) : Nat :=
  let delta := if isFirst then delta / 700 else delta / 2
  scaled (delta + delta / length) 0

structure Decoding where
  text : List Char
  code : Nat
  index : Nat
  bias : Nat
  sum : Nat
  weight : Nat
  place : Nat
  deriving Repr

namespace Decoding

def start (text : List Char) : Decoding := ⟨text, 0x80, 0, 72, 0, 1, base⟩

def insert? (d : Decoding) (sum : Nat) : Option Decoding :=
  let length := d.text.length + 1
  let code := d.code + sum / length
  let index := sum % length
  if isWord code && code.isValidChar then
    some
      ⟨d.text.insertIdx index (Char.ofNat code), code, index + 1,
       adapted (sum - d.index) length (d.index == 0), index + 1, 1, base⟩
  else none

def step? (d : Decoding) (c : Char) : Option Decoding := do
  let digit ← digit? c
  let sum := d.sum + digit * d.weight
  if !isWord (digit * d.weight) || !isWord sum then none
  let t := threshold d.place d.bias
  if digit < t then d.insert? sum
  else
    let weight := d.weight * (base - t)
    if isWord weight then some { d with sum, weight, place := d.place + base } else none

def text? (d : Decoding) : Option (List Char) := if d.place == base then some d.text else none

end Decoding

/-- The text of a code in ASCII.  The last hyphen, unless it comes first, ends what stands
for itself. -/
def decode? (code : List Char) : Option (List Char) :=
  let numbers := (code.reverse.takeWhile (· != '-')).reverse
  let kept := code.take (code.length - numbers.length - 1)
  let numbers := if kept.isEmpty then code else numbers
  if code.all (·.toNat < 0x80) then
    (numbers.foldlM Decoding.step? (Decoding.start kept)).bind Decoding.text?
  else none

end ProgramGuide.Address.Punycode
