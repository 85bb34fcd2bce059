import ProgramGuide.Text.Numeral
import ProgramGuide.Toml.Token

/-!
# TOML strings

What a string stands for, and the string that a text is written as.
-/

namespace ProgramGuide.Toml

def isForbidden (c : Char) : Bool :=
  (c.toNat < 0x20 && c != '\t') || c.toNat == 0x7F

def simpleEscape? : Char → Option Char
  | 'b' => some '\x08'
  | 't' => some '\t'
  | 'n' => some '\n'
  | 'f' => some '\x0c'
  | 'r' => some '\r'
  | 'e' => some '\x1b'
  | '"' => some '"'
  | '\\' => some '\\'
  | _ => none

def codeLength? : Char → Option Nat
  | 'x' => some 2
  | 'u' => some 4
  | 'U' => some 8
  | _ => none

def scalarOf? (n : Nat) : Option Char :=
  if h : n.isValidChar then some (Char.ofNatAux n h) else none

/-- The escape behind a backslash, and the number of characters it takes. -/
def escape? : List Char → Option (Char × Nat)
  | [] => none
  | c :: cs =>
      match codeLength? c with
      | some length => do
          let digits := cs.take length
          if digits.length != length then none
          let n ← Text.ofHexDigits? digits
          (scalarOf? n).map fun scalar => (scalar, length + 1)
      | none => (simpleEscape? c).map fun simple => (simple, 1)

/-! ## One line -/

/-- The text of a basic string between its quotes; the first argument counts the
characters of an escape still to be passed. -/
def basic? : Nat → List Char → Option (List Char)
  | _, [] => some []
  | passing + 1, _ :: cs => basic? passing cs
  | 0, c :: cs =>
      if c == '\\' then
        match escape? cs with
        | some (escaped, width) => (basic? width cs).map (escaped :: ·)
        | none => none
      else if isForbidden c then none
      else (basic? 0 cs).map (c :: ·)

def literal? (cs : List Char) : Option (List Char) := if cs.any isForbidden then none else some cs

/-! ## Several lines -/

def fitsLines : List Char → Bool
  | [] => true
  | '\r' :: '\n' :: cs => fitsLines cs
  | c :: cs => (c == '\n' || !isForbidden c) && fitsLines cs

def isFoldable (c : Char) : Bool := Token.isBlank c || c == '\n' || c == '\r'

def folded? (cs : List Char) : Option (List Char) :=
  match cs.dropWhile Token.isBlank with
  | '\n' :: _ | '\r' :: _ => some (cs.takeWhile isFoldable)
  | _ => none

def basicLines? : Nat → List Char → Option (List Char)
  | _, [] => some []
  | passing + 1, _ :: cs => basicLines? passing cs
  | 0, c :: cs =>
      if c == '\\' then
        match folded? cs with
        | some blanks => if fitsLines blanks then basicLines? blanks.length cs else none
        | none =>
            match escape? cs with
            | some (escaped, width) => (basicLines? width cs).map (escaped :: ·)
            | none => none
      else if c == '\n' || (c == '\r' && cs.head? == some '\n') || !isForbidden c then
        (basicLines? 0 cs).map (c :: ·)
      else none

def literalLines? (cs : List Char) : Option (List Char) := if fitsLines cs then some cs else none

def dropFirstLineEnd : List Char → List Char
  | '\n' :: cs => cs
  | '\r' :: '\n' :: cs => cs
  | cs => cs

/-! ## All strings -/

def before? (width : Nat) (quote : Char) (cs : List Char) : Option (List Char) :=
  if (cs.drop (cs.length - width)) == List.replicate width quote then
    some (cs.take (cs.length - width))
  else none

def Quotes.read? (quotes : Quotes) (cs : List Char) : Option (List Char) :=
  match quotes with
  | .basic => (before? 1 '"' (cs.drop 1)).bind (basic? 0)
  | .literal => (before? 1 '\'' (cs.drop 1)).bind literal?
  | .basicLines => (before? 3 '"' (dropFirstLineEnd (cs.drop 3))).bind (basicLines? 0)
  | .literalLines => (before? 3 '\'' (dropFirstLineEnd (cs.drop 3))).bind literalLines?

def quote (s : String) : List Char :=
  '"' :: s.toList.flatMap escapeCharacter ++ ['"']
where
  escapeCharacter (c : Char) : List Char :=
    match c with
    | '"' => ['\\', '"']
    | '\\' => ['\\', '\\']
    | '\n' => ['\\', 'n']
    | '\r' => ['\\', 'r']
    | '\t' => ['\\', 't']
    | c => if isForbidden c then '\\' :: 'u' :: Text.paddedHex 4 c.toNat else [c]

end ProgramGuide.Toml
