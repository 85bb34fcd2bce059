import ProgramGuide.Text.Numeral

/-!
# SHA-1

The digest of a byte string as forty hexadecimal digits.
-/

namespace ProgramGuide.Sha1

structure State where
  a : UInt32
  b : UInt32
  c : UInt32
  d : UInt32
  e : UInt32
  deriving DecidableEq, Repr

def start : State := ⟨0x67452301, 0xEFCDAB89, 0x98BADCFE, 0x10325476, 0xC3D2E1F0⟩

def rotate (x : UInt32) (n : UInt32) : UInt32 := (x <<< n) ||| (x >>> (32 - n))

/-- The message with a one bit, zeros up to a multiple of 64 bytes, and its length in
bits in the last eight. -/
def pad (message : List UInt8) : List UInt8 :=
  let length := message.length
  let zeros := (119 - length % 64) % 64
  message ++ 0x80 :: List.replicate zeros 0 ++
    (List.range 8).map fun k => UInt8.ofNat (8 * length / Nat.pow 256 (7 - k))

def words : List UInt8 → List UInt32
  | a :: b :: c :: d :: rest =>
      (a.toUInt32 <<< 24 ||| b.toUInt32 <<< 16 ||| c.toUInt32 <<< 8 ||| d.toUInt32) ::
        words rest
  | _ => []

/-- Extends sixteen words to eighty; `recent` holds the last sixteen, newest first. -/
def schedule : Nat → List UInt32 → List UInt32
  | 0, _ => []
  | rounds + 1, recent =>
      let word :=
        rotate (recent.getD 2 0 ^^^ recent.getD 7 0 ^^^ recent.getD 13 0 ^^^
          recent.getD 15 0) 1
      word :: schedule rounds (word :: recent.take 15)

def mix (round : Nat) (s : State) : UInt32 × UInt32 :=
  if round < 20 then ((s.b &&& s.c) ||| (~~~s.b &&& s.d), 0x5A827999)
  else if round < 40 then (s.b ^^^ s.c ^^^ s.d, 0x6ED9EBA1)
  else if round < 60 then
    ((s.b &&& s.c) ||| (s.b &&& s.d) ||| (s.c &&& s.d), 0x8F1BBCDC)
  else (s.b ^^^ s.c ^^^ s.d, 0xCA62C1D6)

def rounds (round : Nat) (s : State) : List UInt32 → State
  | [] => s
  | word :: rest =>
      let (f, k) := mix round s
      rounds (round + 1) ⟨rotate s.a 5 + f + s.e + k + word, s.a, rotate s.b 30, s.c, s.d⟩
        rest

def block (s : State) (message : List UInt32) : State :=
  let t := rounds 0 s (message ++ schedule 64 message.reverse)
  ⟨s.a + t.a, s.b + t.b, s.c + t.c, s.d + t.d, s.e + t.e⟩

def blocks : Nat → State → List UInt32 → State
  | 0, s, _ => s
  | n + 1, s, message => blocks n (block s (message.take 16)) (message.drop 16)

def digest (message : List UInt8) : String :=
  let message := words (pad message)
  let s := blocks (message.length / 16) start message
  String.ofList ([s.a, s.b, s.c, s.d, s.e].flatMap fun w => Text.paddedHex 8 w.toNat)

def ofText (s : String) : String := digest s.toUTF8.toList

example : ofText "abc" = "a9993e364706816aba3e25717850c26c9cd0d89d" := by decide +kernel

end ProgramGuide.Sha1
