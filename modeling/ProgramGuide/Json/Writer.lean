import ProgramGuide.Json.Value

/-!
# Writing JSON

The compact form has no space between tokens; the laid-out form puts every item and
member on a line of its own, two spaces further in.
-/

namespace ProgramGuide.Json

def escape (c : Char) : List Char :=
  match c with
  | '"' => ['\\', '"']
  | '\\' => ['\\', '\\']
  | '\x08' => ['\\', 'b']
  | '\x0c' => ['\\', 'f']
  | '\n' => ['\\', 'n']
  | '\r' => ['\\', 'r']
  | '\t' => ['\\', 't']
  | c => if c.toNat < 0x20 then '\\' :: 'u' :: Text.paddedHex 4 c.toNat else [c]

def quote (s : String) : List Char := '"' :: s.toList.flatMap escape ++ ['"']

mutual

def compact : Json → List Char
  | .null => ['n', 'u', 'l', 'l']
  | .bool true => ['t', 'r', 'u', 'e']
  | .bool false => ['f', 'a', 'l', 's', 'e']
  | .number n => n.text
  | .string s => quote s
  | .array items => '[' :: compactItems items ++ [']']
  | .object members => '{' :: compactMembers members ++ ['}']
  | .brokenObject _ | .unreadable => ['n', 'u', 'l', 'l']

def compactItems : List Json → List Char
  | [] => []
  | [j] => compact j
  | j :: rest => compact j ++ ',' :: compactItems rest

def compactMembers : List (String × Json) → List Char
  | [] => []
  | [(k, v)] => quote k ++ ':' :: compact v
  | (k, v) :: rest => quote k ++ ':' :: compact v ++ ',' :: compactMembers rest

end

def write (j : Json) : String := String.ofList (compact j)

/-! ## Lines -/

def newLine (depth : Nat) : List Char := '\n' :: List.replicate (2 * depth) ' '

mutual

def laidOut (depth : Nat) : Json → List Char
  | .array [] => ['[', ']']
  | .array (j :: rest) =>
      '[' :: laidOutItems (depth + 1) (j :: rest) ++ newLine depth ++ [']']
  | .object [] => ['{', '}']
  | .object (m :: rest) =>
      '{' :: laidOutMembers (depth + 1) (m :: rest) ++ newLine depth ++ ['}']
  | .null => compact .null
  | .bool b => compact (.bool b)
  | .number n => compact (.number n)
  | .string s => compact (.string s)
  | .brokenObject _ | .unreadable => compact .null

def laidOutItems (depth : Nat) : List Json → List Char
  | [] => []
  | [j] => newLine depth ++ laidOut depth j
  | j :: rest => newLine depth ++ laidOut depth j ++ ',' :: laidOutItems depth rest

def laidOutMembers (depth : Nat) : List (String × Json) → List Char
  | [] => []
  | [(k, v)] => newLine depth ++ quote k ++ ':' :: ' ' :: laidOut depth v
  | (k, v) :: rest =>
      newLine depth ++ quote k ++ ':' :: ' ' :: laidOut depth v ++
        ',' :: laidOutMembers depth rest

end

def writeLaidOut (j : Json) : String := String.ofList (laidOut 0 j)

end ProgramGuide.Json
