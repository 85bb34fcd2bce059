import ProgramGuide.Address.Mapping
import ProgramGuide.Address.Punycode
import ProgramGuide.Text.Direction
import ProgramGuide.Text.Joining
import ProgramGuide.Text.Normalized

/-!
# Domain names

A domain name is mapped character by character, composed, and cut into labels at its
points.  Labels in Punycode are decoded.  Then each label must start with something that
is no mark, join letters only where they can be joined, and, in a name with writing from
right to left, keep to one direction.
-/

namespace ProgramGuide.Address.Domain

open Text

def isForbidden (c : Char) : Bool :=
  c.toNat ≤ 0x20 || c.toNat == 0x7F || "%#/:<>?@[\\]^|".toList.contains c

def isAscii (cs : List Char) : Bool := cs.all (·.toNat < 0x80)

/-! ## Labels in Punycode -/

/-- Codes longer than this are not decoded. -/
def longestCode : Nat := 2000

/-- Labels beyond ASCII longer than this have no code. -/
def longestLabel : Nat := 1000

def isSettled (label : List Char) : Bool :=
  (label.all fun c => Mapping.image? c == some [c]) && normalize label == label

def decoded? (label : List Char) : Option (List Char) :=
  match label with
  | 'x' :: 'n' :: '-' :: '-' :: code =>
      if label.getLast? != some '-' && code.length ≤ longestCode then
        (Punycode.decode? code).filter isSettled
      else none
  | label => some label

/-! ## Joiners -/

def nonJoiner : Char := '\u200C'

def joiner : Char := '\u200D'

/-- Whether the nearest character that is not transparent joins on a side. -/
def meets (side : Joining) : List Char → Bool
  | [] => false
  | c :: cs =>
      match Joining.of c with
      | .transparent => meets side cs
      | found => found == side || found == .both

/-- Whether a joiner may stand behind one text, given in reverse, and before another. -/
def joinerFits (c : Char) (before behind : List Char) : Bool :=
  match before with
  | [] => false
  | d :: _ =>
      combiningClass d == viramaClass ||
        c == nonJoiner && meets .behind before && meets .before behind

def joinersFit (before : List Char) : List Char → Bool
  | [] => true
  | c :: cs =>
      (!(c == nonJoiner || c == joiner) || joinerFits c before cs) &&
        joinersFit (c :: before) cs

def isLabel (label : List Char) : Bool :=
  !(label.head?.any isMark) && joinersFit [] label &&
    (isAscii label || label.length ≤ longestLabel)

/-! ## Directions -/

def runsRightToLeft (c : Char) : Bool :=
  match Direction.of c with
  | .rightToLeft | .arabic | .arabicNumber => true
  | _ => false

def fitsLeftToRight : Direction → Bool
  | .leftToRight | .europeanNumber | .neutral | .mark => true
  | _ => false

def fitsRightToLeft : Direction → Bool
  | .leftToRight => false
  | _ => true

def endsLeftToRight : Direction → Bool
  | .leftToRight | .europeanNumber => true
  | _ => false

def endsRightToLeft : Direction → Bool
  | .rightToLeft | .arabic | .europeanNumber | .arabicNumber => true
  | _ => false

/-- A label starts with a letter, whose direction is that of all others; numbers are of
one kind. -/
def keepsDirection (label : List Char) : Bool :=
  let directions := label.map Direction.of
  let reversed := directions.reverse.dropWhile (· == .mark)
  match directions with
  | [] => true
  | .leftToRight :: _ => directions.all fitsLeftToRight && reversed.head?.all endsLeftToRight
  | .rightToLeft :: _ | .arabic :: _ =>
      directions.all fitsRightToLeft && reversed.head?.all endsRightToLeft &&
        !(directions.contains .europeanNumber && directions.contains .arabicNumber)
  | _ => false

/-! ## Names -/

def labels? (name : List Char) : Option (List (List Char)) := do
  let mapped ← name.mapM Mapping.image?
  let normal := normalize mapped.flatten
  if normal.any isForbidden then none else (splitAt '.' normal).mapM decoded?

def read? (name : List Char) : Option (List Char) := do
  let labels ← labels? name
  if labels.all isLabel &&
      (!(labels.any (·.any runsRightToLeft)) || labels.all keepsDirection) then
    some (List.intercalate ['.'] labels)
  else none

end ProgramGuide.Address.Domain
