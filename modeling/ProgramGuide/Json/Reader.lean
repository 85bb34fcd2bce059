import ProgramGuide.Json.Value

/-!
# Reading JSON

The text is cut into tokens, and the tokens are put together on a stack of the arrays
and objects that are still open, so nesting has no limit.  Where the text breaks off
or goes wrong, what was read up to there is kept.
-/

namespace ProgramGuide.Json

inductive Token where
  | openArray | closeArray | openObject | closeObject | comma | colon
  | null
  | bool (b : Bool)
  | number (n : Option Number)
  | string (s : Option String)
  | wrong
  deriving DecidableEq, Repr

/-! ## Strings -/

/-- A character of a string, or a UTF-16 unit given by its code. -/
inductive Piece where
  | char (c : Char)
  | unit (n : Nat)
  deriving DecidableEq, Repr

def escaped? : Char → Option Char
  | '"' => some '"'
  | '\\' => some '\\'
  | '/' => some '/'
  | 'b' => some '\x08'
  | 'f' => some '\x0c'
  | 'n' => some '\n'
  | 'r' => some '\r'
  | 't' => some '\t'
  | _ => none

/-- The pieces of a string, from behind its opening quote up to the closing one, the
number of characters passed with it, and nothing when the string is malformed. -/
def pieces? : List Char → Option (List Piece × Nat)
  | [] => none
  | '"' :: _ => some ([], 1)
  | '\\' :: 'u' :: a :: b :: c :: d :: cs => do
      let n ← Text.ofHexDigits? [a, b, c, d]
      let (pieces, width) ← pieces? cs
      some (.unit n :: pieces, width + 6)
  | '\\' :: e :: cs => do
      let c ← escaped? e
      let (pieces, width) ← pieces? cs
      some (.char c :: pieces, width + 2)
  | c :: cs =>
      if c.toNat < 0x20 || c == '\\' then none
      else do
        let (pieces, width) ← pieces? cs
        some (.char c :: pieces, width + 1)

def isHighSurrogate (n : Nat) : Bool := 0xD800 ≤ n && n < 0xDC00

def isLowSurrogate (n : Nat) : Bool := 0xDC00 ≤ n && n < 0xE000

/-- Joins surrogate pairs; nothing when one half stands alone. -/
def joinPieces : List Piece → Option (List Char)
  | [] => some []
  | .char c :: rest => (joinPieces rest).map (c :: ·)
  | .unit high :: .unit low :: rest =>
      if isHighSurrogate high && isLowSurrogate low then
        (joinPieces rest).map
          (Char.ofNat (0x10000 + (high - 0xD800) * 0x400 + (low - 0xDC00)) :: ·)
      else if isHighSurrogate high || isLowSurrogate high then none
      else (joinPieces (.unit low :: rest)).map (Char.ofNat high :: ·)
  | .unit n :: rest =>
      if isHighSurrogate n || isLowSurrogate n then none
      else (joinPieces rest).map (Char.ofNat n :: ·)

/-! ## Tokens -/

def isSpace (c : Char) : Bool := c == ' ' || c == '\t' || c == '\n' || c == '\r'

def isNumberCharacter (c : Char) : Bool :=
  c.isDigit || c == '-' || c == '+' || c == '.' || c == 'e' || c == 'E'

def word? (cs : List Char) : Option Token :=
  if cs == ['n', 'u', 'l', 'l'] then some .null
  else if cs == ['t', 'r', 'u', 'e'] then some (.bool true)
  else if cs == ['f', 'a', 'l', 's', 'e'] then some (.bool false)
  else none

def token? (c : Char) (cs : List Char) : Option (Token × Nat) :=
  match c with
  | '[' => some (.openArray, 1)
  | ']' => some (.closeArray, 1)
  | '{' => some (.openObject, 1)
  | '}' => some (.closeObject, 1)
  | ',' => some (.comma, 1)
  | ':' => some (.colon, 1)
  | '"' =>
      (pieces? cs).map fun (pieces, width) =>
        (.string ((joinPieces pieces).map String.ofList), width + 1)
  | _ =>
      if c.isAlpha then
        let letters := c :: cs.takeWhile Char.isAlpha
        (word? letters).map fun token => (token, letters.length)
      else if c == '-' || c.isDigit then
        let run := c :: cs.takeWhile isNumberCharacter
        (Number.Literal.scan? run).map fun (literal, rest) =>
          (.number (Number.ofLiteral? literal), run.length - rest.length)
      else none

/-- The tokens of a text, in reverse before those already found.  The first argument
counts the characters of a token that are still to be passed. -/
def reversedTokens : Nat → List Token → List Char → List Token
  | _, found, [] => found
  | passing + 1, found, _ :: cs => reversedTokens passing found cs
  | 0, found, c :: cs =>
      if isSpace c then reversedTokens 0 found cs
      else
        match token? c cs with
        | some (token, width) => reversedTokens (width - 1) (token :: found) cs
        | none => .wrong :: found

def tokens (cs : List Char) : List Token := (reversedTokens 0 [] cs).reverse

/-! ## Values -/

/-- An array or object that is still open, with its contents in reverse. -/
inductive Frame where
  | array (items : List Json)
  | object (members : List (Option String × Json)) (key : Option String)
  deriving Repr

inductive Expected where
  | value | item | member | key | colon | more
  deriving DecidableEq, Repr

inductive State where
  | reading (expected : Expected) (frames : List Frame)
  | done (j : Json)
  deriving Repr

def membersOf : List (Option String × Json) → List (String × Json) × Bool
  | [] => ([], true)
  | (some k, v) :: rest =>
      let (members, whole) := membersOf rest
      ((k, v) :: members, whole)
  | (none, _) :: _ => ([], false)

def Frame.close : Frame → Json
  | .array items => .array items.reverse
  | .object members _ =>
      let (members, whole) := membersOf members.reverse
      if whole then .object members else .brokenObject members

def place (j : Json) : List Frame → State
  | [] => .done j
  | .array items :: frames => .reading .more (.array (j :: items) :: frames)
  | .object members key :: frames =>
      .reading .more (.object ((key, j) :: members) none :: frames)

def begin? (frames : List Frame) : Token → Option State
  | .openArray => some (.reading .item (.array [] :: frames))
  | .openObject => some (.reading .member (.object [] none :: frames))
  | .null => some (place .null frames)
  | .bool b => some (place (.bool b) frames)
  | .number (some n) => some (place (.number n) frames)
  | .string (some s) => some (place (.string s) frames)
  | .number none | .string none => some (place .unreadable frames)
  | _ => none

def close? : Token → List Frame → Option State
  | .closeArray, .array items :: frames => some (place (Frame.array items).close frames)
  | .closeObject, .object members key :: frames =>
      some (place (Frame.object members key).close frames)
  | _, _ => none

def key? (key : Option String) : List Frame → Option State
  | .object members _ :: frames => some (.reading .colon (.object members key :: frames))
  | _ => none

def step : State → Token → Option State
  | .done _, _ => none
  | .reading .value frames, token => begin? frames token
  | .reading .item frames, .closeArray => close? .closeArray frames
  | .reading .item frames, token => begin? frames token
  | .reading .member frames, .closeObject => close? .closeObject frames
  | .reading .member frames, .string key => key? key frames
  | .reading .key frames, .string key => key? key frames
  | .reading .colon frames, .colon => some (.reading .value frames)
  | .reading .more (.array items :: frames), .comma =>
      some (.reading .value (.array items :: frames))
  | .reading .more (.object members key :: frames), .comma =>
      some (.reading .key (.object members key :: frames))
  | .reading .more frames, token => close? token frames
  | _, _ => none

def run : State → List Token → State × Bool
  | state, [] => (state, true)
  | state, token :: rest =>
      match step state token with
      | some next => run next rest
      | none => (state, false)

def collapse : List Frame → Json
  | [] => .unreadable
  | [frame] => frame.close
  | frame :: .array items :: frames => collapse (.array (frame.close :: items) :: frames)
  | frame :: .object members key :: frames =>
      collapse (.object ((key, frame.close) :: members) none :: frames)
termination_by frames => frames.length

/-- A value, and whether the text is that value and nothing else. -/
structure Reading where
  value : Json
  complete : Bool
  deriving Repr

def readAsFar (s : String) : Reading :=
  match run (.reading .value []) (tokens s.toList) with
  | (.done j, complete) => ⟨j, complete⟩
  | (.reading _ frames, _) => ⟨collapse frames, false⟩

def read? (s : String) : Option Json :=
  let reading := readAsFar s
  if reading.complete then some reading.value else none

end ProgramGuide.Json
