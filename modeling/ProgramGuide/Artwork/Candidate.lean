import ProgramGuide.Json.Decoding
import ProgramGuide.Text.Blank
import ProgramGuide.Text.Case

/-!
# Artwork candidates

Pictures offered for a program, with their dimensions in text.  A dimension that is
no whole number counts as zero.
-/

namespace ProgramGuide

structure ArtworkCandidate where
  width : Option String
  height : Option String
  uri : Option String
  text : Option String
  deriving DecidableEq, Repr

structure ShowArtwork where
  programId : String
  candidates : List ArtworkCandidate
  deriving DecidableEq, Repr

namespace ArtworkCandidate

open Json Fields in
def fields : Fields ArtworkCandidate :=
  ArtworkCandidate.mk <$> loose "width" <*> loose "height" <*> nullable "uri" string?
    <*> nullable "text" string?

def ofJson? : Json → Option ArtworkCandidate := fields.decode?

def ofDimensions (width height : String) (text : Bool) (uri : String) :
    ArtworkCandidate :=
  ⟨some width, some height, some uri, some (if text then "yes" else "no")⟩

def hasText? (c : ArtworkCandidate) : Option Bool :=
  match c.text with
  | some answer =>
      if Text.sameIgnoringCase answer "yes" then some true
      else if Text.sameIgnoringCase answer "no" then some false
      else none
  | none => none

def pixels (dimension : Option String) : Int :=
  (dimension.bind fun s => Text.signed? 64 (Text.trimChars s.toList)).getD 0

def widthPixels (c : ArtworkCandidate) : Int := pixels c.width

def heightPixels (c : ArtworkCandidate) : Int := pixels c.height

def aspect (c : ArtworkCandidate) : Binary64 :=
  if c.widthPixels == 0 || c.heightPixels == 0 then Binary64.zero
  else (Binary64.ofInt c.widthPixels).div (Binary64.ofInt c.heightPixels)

end ArtworkCandidate

namespace ShowArtwork

/-- Anything but a list counts as an empty one, and items that are no candidates are
left out; yet the value must be usable as a whole, nested at most so deep. -/
def candidates? (depth : Nat) (j : Json) : Option (List ArtworkCandidate) :=
  if j.usable depth then
    match j.settle with
    | .array items => some (items.filterMap ArtworkCandidate.ofJson?)
    | _ => some []
  else none

open Json Fields in
def fields (depth : Nat) : Fields ShowArtwork :=
  ShowArtwork.mk <$> required "programID" string?
    <*> withDefault "data" (candidates? (depth - 1)) []

def ofJson? (depth : Nat) : Json → Option ShowArtwork := (fields depth).decode?

def listOfJson? : Json → Option (List ShowArtwork) :=
  Json.list? (ofJson? (Json.nestingLimit - 1))

end ShowArtwork

end ProgramGuide
