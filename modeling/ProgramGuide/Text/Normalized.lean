import ProgramGuide.Text.CombiningClass
import ProgramGuide.Text.Composition

/-!
# Composed text in canonical order

Text is taken apart into bases and marks, the marks behind each base are put in the
order of their classes, and bases and marks are joined again where there is a character
for both.
-/

namespace ProgramGuide.Text

/-- No composite is made of more than so many marks one after the other. -/
def compositionDepth : Nat := 4

def decompose : Nat → Char → List Char
  | 0, c => [c]
  | depth + 1, c =>
      match parts? c with
      | some (base, mark) => decompose depth base ++ [mark]
      | none => [c]

/-! ## Order of marks -/

/-- Puts a character behind others, given in reverse, but in front of the marks of
higher classes at their end. -/
def insertMark (c : Char) : List Char → List Char
  | [] => [c]
  | d :: rest =>
      if 0 < combiningClass c && combiningClass c < combiningClass d then
        d :: insertMark c rest
      else c :: d :: rest

def inOrder (cs : List Char) : List Char :=
  (cs.foldl (fun ordered c => insertMark c ordered) []).reverse

/-! ## Composition -/

/-- Text being composed, in reverse: what is finished, the latest base, and the marks
that stay apart from it. -/
structure Composing where
  finished : List Char
  base : Char
  apart : List Char
  deriving Repr

namespace Composing

def reaches (s : Composing) (order : Nat) : Bool :=
  match s.apart with
  | [] => true
  | mark :: _ => combiningClass mark < order

def flush (s : Composing) : List Char := s.apart ++ s.base :: s.finished

def add (s : Composing) (c : Char) : Composing :=
  match if s.reaches (combiningClass c) then compose? s.base c else none with
  | some composite => { s with base := composite }
  | none =>
      if combiningClass c == 0 then ⟨s.flush, c, []⟩ else { s with apart := c :: s.apart }

end Composing

def compose : List Char → List Char
  | [] => []
  | c :: cs => (cs.foldl Composing.add ⟨[], c, []⟩).flush.reverse

def normalize (cs : List Char) : List Char :=
  compose (inOrder (cs.flatMap (decompose compositionDepth)))

end ProgramGuide.Text
