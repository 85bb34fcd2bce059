import ProgramGuide.Toml.Quote

/-!
# TOML lines

The tokens of a document are put together to headers and to keys with values, all of them
still as they are written.  Values inside brackets and braces run over several lines.  A
simple key or a value that is missing is an empty word, which stands for nothing.
-/

namespace ProgramGuide.Toml

inductive Written where
  | word (text : List Char)
  | string (quotes : Quotes) (text : List Char)
  deriving DecidableEq, Repr

abbrev WrittenKey := List Written

inductive WrittenValue where
  | scalar (text : Written)
  | array (items : List WrittenValue)
  | table (members : List (WrittenKey × WrittenValue))
  deriving Repr

inductive Line where
  | table (key : WrittenKey)
  | element (key : WrittenKey)
  | assignment (key : WrittenKey) (value : WrittenValue)
  deriving Repr

/-! ## Between the parts -/

def Token.isSound : Token → Bool
  | .comment text => !text.any isForbidden
  | .loneReturn => false
  | _ => true

def isBlankToken : Token → Bool
  | .blanks _ => true
  | _ => false

def isGap : Token → Bool
  | .blanks _ | .comment _ | .lineEnd => true
  | _ => false

def skipBlanks (ts : List Token) : List Token := ts.dropWhile isBlankToken

def skipGaps (ts : List Token) : List Token := ts.dropWhile isGap

/-! ## Keys -/

def missing : Written := .word []

def simpleKey : List Token → Written × List Token
  | .word text :: ts => (.word text, ts)
  | .string quotes text :: ts => (.string quotes text, ts)
  | ts => (missing, ts)

/-- Simple keys with points between them, up to what follows the blanks behind them; the
first argument bounds their number. -/
def keyUpTo : Nat → List Token → WrittenKey × List Token
  | 0, ts => ([], ts)
  | more + 1, ts =>
      let (first, ts) := simpleKey (skipBlanks ts)
      match skipBlanks ts with
      | .dot :: ts =>
          let (others, ts) := keyUpTo more ts
          (first :: others, ts)
      | ts => ([first], ts)

def key (ts : List Token) : WrittenKey × List Token := keyUpTo (ts.length + 1) ts

/-! ## Values -/

/-- The rest of a value without quotes: points belong to it, and so do blanks if a word
follows them. -/
def continuation : List Token → List Char × List Token
  | .dot :: ts =>
      let (text, rest) := continuation ts
      ('.' :: text, rest)
  | .word word :: ts =>
      let (text, rest) := continuation ts
      (word ++ text, rest)
  | .blanks blanks :: .word word :: ts =>
      let (text, rest) := continuation ts
      (blanks ++ word ++ text, rest)
  | ts => ([], ts)

def nestingLimit : Nat := 80

mutual

/-- A value; the first argument bounds the number of steps, the second the nesting. -/
def value? : Nat → Nat → List Token → Option (WrittenValue × List Token)
  | 0, _, _ => none
  | steps + 1, depth, ts =>
      match ts with
      | .openBracket :: ts =>
          if depth == 0 then none
          else (items? steps (depth - 1) ts).map fun (found, ts) => (.array found, ts)
      | .openBrace :: ts =>
          if depth == 0 then none
          else
            match skipGaps ts with
            | .closeBrace :: ts => some (.table [], ts)
            | ts => (members? steps (depth - 1) ts).map fun (found, ts) => (.table found, ts)
      | .string quotes text :: ts => some (.scalar (.string quotes text), ts)
      | .word word :: ts =>
          let (text, ts) := continuation ts
          some (.scalar (.word (word ++ text)), ts)
      | .dot :: ts =>
          let (text, ts) := continuation ts
          some (.scalar (.word ('.' :: text)), ts)
      | _ => none

def items? : Nat → Nat → List Token → Option (List WrittenValue × List Token)
  | 0, _, _ => none
  | steps + 1, depth, ts => do
      match skipGaps ts with
      | .closeBracket :: ts => some ([], ts)
      | ts =>
          let (item, ts) ← value? steps depth ts
          match skipGaps ts with
          | .comma :: ts =>
              let (items, ts) ← items? steps depth ts
              some (item :: items, ts)
          | .closeBracket :: ts => some ([item], ts)
          | _ => none

def members? : Nat → Nat → List Token → Option (List (WrittenKey × WrittenValue) × List Token)
  | 0, _, _ => none
  | steps + 1, depth, ts => do
      let (key, ts) := key (skipGaps ts)
      let (value, ts) ←
        match skipGaps ts with
        | .equals :: ts =>
            match skipGaps ts with
            | .closeBrace :: ts => some (.scalar missing, .closeBrace :: ts)
            | ts => value? steps depth ts
        | .closeBrace :: ts => some (.scalar missing, .closeBrace :: ts)
        | _ => none
      match skipGaps ts with
      | .closeBrace :: ts => some ([(key, value)], ts)
      | .comma :: ts =>
          match skipGaps ts with
          | .closeBrace :: ts => some ([(key, value)], ts)
          | ts =>
              let (members, ts) ← members? steps depth ts
              some ((key, value) :: members, ts)
      | _ => none

end

/-! ## Lines -/

/-- What stands behind the key of a header; its brackets are so many.  Behind a key whose
end is missing nothing on the line is looked at, unless it is a closing bracket. -/
def headerEnd? (brackets : Nat) (key : WrittenKey) (ts : List Token) : Option (List Token) :=
  if ts.head? != some .closeBracket && key.getLast? == some missing then
    some (ts.dropWhile (· != .lineEnd))
  else if ts.take brackets == List.replicate brackets .closeBracket then
    some (ts.drop brackets)
  else none

def header? (ts : List Token) : Option (Line × List Token) :=
  match ts with
  | .openBracket :: ts =>
      let (key, ts) := key ts
      (headerEnd? 2 key ts).map fun ts => (.element key, ts)
  | ts =>
      let (key, ts) := key ts
      (headerEnd? 1 key ts).map fun ts => (.table key, ts)

def lineValue? (ts : List Token) : Option (WrittenValue × List Token) :=
  match skipBlanks ts with
  | [] => some (.scalar missing, [])
  | .lineEnd :: ts => some (.scalar missing, .lineEnd :: ts)
  | .comment text :: ts => some (.scalar missing, .comment text :: ts)
  | ts => value? (2 * ts.length + 2) nestingLimit ts

def line? (ts : List Token) : Option (Line × List Token) :=
  match ts with
  | .openBracket :: ts => header? ts
  | ts =>
      match key ts with
      | (key, .equals :: ts) =>
          (lineValue? ts).map fun (value, ts) => (.assignment key value, ts)
      | _ => none

def lineEnd? (ts : List Token) : Option (List Token) :=
  match skipBlanks ts with
  | [] | [.comment _] => some []
  | .lineEnd :: ts | .comment _ :: .lineEnd :: ts => some ts
  | _ => none

def linesUpTo? : Nat → List Token → Option (List Line)
  | 0, _ => none
  | more + 1, ts =>
      match skipGaps ts with
      | [] => some []
      | ts => do
          let (line, ts) ← line? ts
          let ts ← lineEnd? ts
          let lines ← linesUpTo? more ts
          some (line :: lines)

def lines? (ts : List Token) : Option (List Line) :=
  if ts.all Token.isSound then linesUpTo? (ts.length + 1) ts else none

end ProgramGuide.Toml
