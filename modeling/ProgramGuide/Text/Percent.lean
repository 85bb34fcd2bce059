import ProgramGuide.Text.Numeral

/-!
# Percent-encoding

Letters, digits and `- _ . ~` stand for themselves; every other byte of the UTF-8
text is written as a percent sign and two upper-case hexadecimal digits.
-/

namespace ProgramGuide.Text.Percent

def unreserved (b : UInt8) : Bool :=
  let c := Char.ofNat b.toNat
  c.isAlphanum || c == '-' || c == '_' || c == '.' || c == '~'

def encodeByte (b : UInt8) : List Char :=
  if unreserved b then [Char.ofNat b.toNat]
  else '%' :: (paddedHex 2 b.toNat).map Char.toUpper

def encode (s : String) : String :=
  String.ofList (s.toUTF8.toList.flatMap encodeByte)

/-- The bytes that a percent-encoded text stands for; a sign without two digits
stands for itself. -/
def decodeBytes : List Char → List UInt8
  | [] => []
  | '%' :: a :: b :: cs =>
      match hexDigit? a, hexDigit? b with
      | some high, some low => UInt8.ofNat (16 * high + low) :: decodeBytes cs
      | _, _ => UInt8.ofNat '%'.toNat :: decodeBytes (a :: b :: cs)
  | c :: cs => (String.singleton c).toUTF8.toList ++ decodeBytes cs

def decode? (cs : List Char) : Option String :=
  String.fromUTF8? (decodeBytes cs).toByteArray

end ProgramGuide.Text.Percent
