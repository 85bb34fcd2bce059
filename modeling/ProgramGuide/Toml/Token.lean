/-!
# TOML tokens

A text is cut into marks, blanks, comments, line ends, strings and words.  Every text can
be cut; what a token may hold is looked at later.
-/

namespace ProgramGuide.Toml

/-- Basic strings have escapes, literal ones none; either may run over several lines
between triple quotes. -/
inductive Quotes where
  | basic | literal | basicLines | literalLines
  deriving DecidableEq, Repr

inductive Token where
  | dot | equals | comma | openBracket | closeBracket | openBrace | closeBrace
  | blanks (text : List Char)
  | comment (text : List Char)
  | lineEnd
  | loneReturn
  | string (quotes : Quotes) (text : List Char)
  | word (text : List Char)
  deriving DecidableEq, Repr

namespace Token

def isBlank (c : Char) : Bool := c == ' ' || c == '\t'

def endsWord (c : Char) : Bool := ".=,[]\x7b\x7d \t#\r\n".toList.contains c

def basicText : List Char → List Char
  | [] => []
  | '"' :: _ => ['"']
  | '\n' :: _ => []
  | '\\' :: '"' :: cs => '\\' :: '"' :: basicText cs
  | '\\' :: '\\' :: cs => '\\' :: '\\' :: basicText cs
  | c :: cs => c :: basicText cs

def literalText : List Char → List Char
  | [] => []
  | '\'' :: _ => ['\'']
  | '\n' :: _ => []
  | c :: cs => c :: literalText cs

/-- Three quotes end a string; up to two in front of them belong to its text. -/
def closingQuotes? (quote : Char) (cs : List Char) : Option (List Char) :=
  let run := (cs.takeWhile (· == quote)).take 5
  if run.length < 3 then none else some run

def basicLinesText : List Char → List Char
  | [] => []
  | '\\' :: '"' :: cs => '\\' :: '"' :: basicLinesText cs
  | '\\' :: '\\' :: cs => '\\' :: '\\' :: basicLinesText cs
  | c :: cs => (closingQuotes? '"' (c :: cs)).getD (c :: basicLinesText cs)

def literalLinesText : List Char → List Char
  | [] => []
  | c :: cs => (closingQuotes? '\'' (c :: cs)).getD (c :: literalLinesText cs)

def quoted (quotes : Quotes) (opening text : List Char) : Token × Nat :=
  (.string quotes (opening ++ text), opening.length + text.length)

def first (c : Char) (cs : List Char) : Token × Nat :=
  match c, cs with
  | '.', _ => (.dot, 1)
  | '=', _ => (.equals, 1)
  | ',', _ => (.comma, 1)
  | '[', _ => (.openBracket, 1)
  | ']', _ => (.closeBracket, 1)
  | '\x7b', _ => (.openBrace, 1)
  | '\x7d', _ => (.closeBrace, 1)
  | '\n', _ => (.lineEnd, 1)
  | '\r', '\n' :: _ => (.lineEnd, 2)
  | '\r', _ => (.loneReturn, 1)
  | '"', '"' :: '"' :: cs => quoted .basicLines ['"', '"', '"'] (basicLinesText cs)
  | '"', cs => quoted .basic ['"'] (basicText cs)
  | '\'', '\'' :: '\'' :: cs => quoted .literalLines ['\'', '\'', '\''] (literalLinesText cs)
  | '\'', cs => quoted .literal ['\''] (literalText cs)
  | '#', cs =>
      let text := cs.takeWhile fun c => !(c == '\r' || c == '\n')
      (.comment text, text.length + 1)
  | c, cs =>
      if isBlank c then
        let text := c :: cs.takeWhile isBlank
        (.blanks text, text.length)
      else
        let text := c :: cs.takeWhile (!endsWord ·)
        (.word text, text.length)

/-- The tokens of a text; the first argument counts the characters of the latest one that
are still to be passed. -/
def scan : Nat → List Char → List Token
  | _, [] => []
  | passing + 1, _ :: cs => scan passing cs
  | 0, c :: cs =>
      let (token, width) := first c cs
      token :: scan (width - 1) cs

end Token

end ProgramGuide.Toml
