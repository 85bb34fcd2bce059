import ProgramGuide.Toml.Line
import ProgramGuide.Toml.Table

/-!
# Reading TOML

The lines of a document are read as a whole first.  Then, from the first to the last, keys
and values are taken from what is written, and the tables are filled.
-/

namespace ProgramGuide.Toml

inductive Fault where
  | malformed
  | tooDeep
  deriving DecidableEq, Repr

def Fault.message : Fault → String
  | .malformed => "TOML parse error"
  | .tooDeep => "recursion limit"

abbrev Outcome := Except Fault

def need : Option α → Outcome α
  | some a => .ok a
  | none => .error .malformed

/-! ## Keys -/

def isBareCharacter (c : Char) : Bool := c.isAlphanum || c == '-' || c == '_'

def keyPart? : Written → Option String
  | .word text =>
      if !text.isEmpty && text.all isBareCharacter then some (String.ofList text) else none
  | .string quotes text =>
      match quotes with
      | .basic | .literal => (quotes.read? text).map String.ofList
      | .basicLines | .literalLines => none

def longestKey : Nat := 80

def readKey (written : WrittenKey) : Outcome (List String × String) := do
  let parts ← need (written.mapM keyPart?)
  if longestKey < parts.length then throw .tooDeep
  return (parts.dropLast, parts.getLastD "")

/-! ## Values -/

def readScalar : Written → Outcome Toml
  | .word text => need ((Scalar.read? text).map .scalar)
  | .string quotes text => need ((quotes.read? text).map fun s => .string (String.ofList s))

mutual

def readValue : WrittenValue → Outcome Toml
  | .scalar text => readScalar text
  | .array items => (readItems items).map .array
  | .table members => (readMembers members []).map (.table .inline)

def readItems : List WrittenValue → Outcome (List Toml)
  | [] => .ok []
  | item :: rest => do
      let item ← readValue item
      let rest ← readItems rest
      return item :: rest

def readMembers : List (WrittenKey × WrittenValue) → Members → Outcome Members
  | [], members => .ok members
  | (key, value) :: rest, members => do
      let (path, key) ← readKey key
      let value ← readValue value
      let members ← need (assign value path key members)
      readMembers rest members

end

/-! ## Documents -/

inductive Place where
  | root
  | table (path : List String) (key : String)
  | element (path : List String) (key : String)
  deriving Repr

structure Building where
  finished : Members
  place : Place
  table : Members
  deriving Repr

namespace Building

def empty : Building := ⟨[], .root, []⟩

def finish (b : Building) : Outcome Members :=
  match b.place with
  | .root => .ok b.table
  | .table path key => need (placeTable path key b.table b.finished)
  | .element path key => need (placeElement path key b.table b.finished)

def add (b : Building) : Line → Outcome Building
  | .assignment key value => do
      let (path, key) ← readKey key
      let value ← readValue value
      let table ← need (assign value path key b.table)
      return { b with table }
  | .table key => do
      let finished ← b.finish
      let (path, key) ← readKey key
      let table ← need (held? path key finished)
      return ⟨finished, .table path key, table⟩
  | .element key => do
      let finished ← b.finish
      let (path, key) ← readKey key
      return ⟨finished, .element path key, []⟩

end Building

/-- The document of a text.  A byte order mark in front is no part of it. -/
def read (s : String) : Outcome Toml := do
  let cs :=
    match s.toList with
    | '\uFEFF' :: cs => cs
    | cs => cs
  let lines ← need (lines? (Token.scan 0 cs))
  let building ← lines.foldlM Building.add Building.empty
  let members ← building.finish
  return .table .header members

end ProgramGuide.Toml
