import ProgramGuide.Text.Case

/-!
# Audio formats
-/

namespace ProgramGuide

inductive Audio where
  | mono | stereo | dolbyDigital | atmos
  deriving DecidableEq, Repr

namespace Audio

def name : Audio → String
  | .mono => "mono"
  | .stereo => "stereo"
  | .dolbyDigital => "dolbydigital"
  | .atmos => "atmos"

/-- The best format that the tags name.  Without tags it is stereo, with none that is
known mono. -/
def ofTags : Option (List String) → Audio
  | none => .stereo
  | some tags =>
      if Text.listsIgnoringCase tags "atmos" then .atmos
      else if Text.listsIgnoringCase tags "dd 5.1" || Text.listsIgnoringCase tags "dd" then
        .dolbyDigital
      else if Text.listsIgnoringCase tags "stereo" then .stereo
      else .mono

end Audio

end ProgramGuide
