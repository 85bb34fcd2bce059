import ProgramGuide.Address.Endpoint
import ProgramGuide.Artwork.Candidate

/-!
# Choosing artwork

Of several candidates the one with the best fit is chosen: a usable aspect before
none, then the least distance from the desired aspect, then the greater height, then
the earlier place.
-/

namespace ProgramGuide

/-- How well a candidate fits; smaller is better. -/
structure Fit where
  unusable : Bool
  /-- Distance from the desired aspect, as a key of the total order of doubles. -/
  distance : Int
  height : Int
  deriving DecidableEq, Repr

namespace Fit

def compare (a b : Fit) : Ordering :=
  (compareOfLessAndEq a.unusable.toNat b.unusable.toNat).then
    ((compareOfLessAndEq a.distance b.distance).then
      (compareOfLessAndEq b.height a.height))

end Fit

namespace ArtworkCandidate

def fit (desired : Binary64) (c : ArtworkCandidate) : Fit :=
  { unusable := c.aspect.isZero
    distance := (desired.sub c.aspect).abs.orderKey
    height := c.heightPixels }

end ArtworkCandidate

namespace Artwork

def portrait : Binary64 := (Binary64.ofNat 2).div (Binary64.ofNat 3)

def wide : Binary64 := (Binary64.ofNat 16).div (Binary64.ofNat 9)

def select? (desired : Binary64) : List ArtworkCandidate → Option ArtworkCandidate
  | [] => none
  | c :: rest => some (best c rest)
where
  best (chosen : ArtworkCandidate) : List ArtworkCandidate → ArtworkCandidate
    | [] => chosen
    | c :: rest =>
        match (c.fit desired).compare (chosen.fit desired) with
        | .lt => best c rest
        | _ => best chosen rest

/-- The place of the candidate chosen: no earlier one is like it, for it would fit as
well. -/
def place? (desired : Binary64) (candidates : List ArtworkCandidate) : Option Nat :=
  (select? desired candidates).bind fun c => candidates.idxOf? c

end Artwork

structure ProgramImages where
  primary : Option String
  thumb : Option String
  backdrop : Option String
  deriving DecidableEq, Repr

namespace ProgramImages

def isEmpty (images : ProgramImages) : Bool :=
  images.primary.isNone && images.thumb.isNone && images.backdrop.isNone

def location? (base : String) (c : ArtworkCandidate) : Option String :=
  (c.uri.bind Text.nonBlank?).map (Address.image base)

/-- A portrait picture with text, else any portrait; a wide one with text that is not
the same; a wide one without text. -/
def choose (base : String) (candidates : List ArtworkCandidate) : ProgramImages :=
  let withText := candidates.filter (·.hasText? == some true)
  let withoutText := candidates.filter (·.hasText? == some false)
  let chosen desired among := (Artwork.select? desired among).bind (location? base)
  let primary :=
    match chosen Artwork.portrait withText with
    | some uri => some uri
    | none => chosen Artwork.portrait candidates
  { primary
    thumb := (chosen Artwork.wide withText).filter fun uri => primary != some uri
    backdrop := chosen Artwork.wide withoutText }

end ProgramImages

end ProgramGuide
