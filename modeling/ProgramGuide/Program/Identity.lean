import ProgramGuide.Text.Bytes
import ProgramGuide.Text.Case

/-!
# Program ids

An id starts with its root, ten characters that all episodes of a show share.  Ids
that start with `SH` are generic; one that also ends in `0000` names no episode at all.
-/

namespace ProgramGuide.ProgramId

/-- The first ten bytes of an id; a shorter one is its own root, as is one with a
character across that mark. -/
def root (id : String) : String :=
  match Text.takeBytes? 10 id.toList with
  | some cs => String.ofList cs
  | none => id

def isGeneric (id : String) : Bool := Text.startsIgnoringCase "SH" id

def isUnidentified (id : String) : Bool :=
  isGeneric id && Text.endsIgnoringCase "0000" id

/-- What groups airings into a show: the root, or for an unidentified program the
identity of the airing. -/
def showId (id identity : String) : String :=
  if isUnidentified id then identity else root id

end ProgramGuide.ProgramId
