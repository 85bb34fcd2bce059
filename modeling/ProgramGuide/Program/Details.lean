import ProgramGuide.Json.Decoding
import ProgramGuide.Text.Case

/-!
# Program details

What the service knows about a program, shared by all airings with its id.
-/

namespace ProgramGuide

structure Descriptions where
  short : List (Option String)
  long : List (Option String)
  deriving DecidableEq, Repr

structure Movie where
  year : Option String
  /-- Length in seconds. -/
  duration : Option Int
  deriving DecidableEq, Repr

structure EpisodeNumber where
  season : Int
  episode : Int
  deriving DecidableEq, Repr

structure ProgramDetails where
  programId : String
  titles : List (Option String)
  entityType : Option String
  episodeTitle : Option String
  descriptions : Option Descriptions
  ratings : List String
  genres : Option (List String)
  firstAired : Option String
  movie : Option Movie
  numberings : List (Option EpisodeNumber)
  audience : Option String
  hasArtwork : Bool
  deriving DecidableEq, Repr

namespace ProgramDetails

open Json Fields

def title? : Json → Option (Option String) := (nullable "title120" string?).decode?

def description? : Json → Option (Option String) :=
  (nullable "description" string?).decode?

def descriptions? : Json → Option Descriptions :=
  (Descriptions.mk <$> withDefault "description100" (list? description?) []
    <*> withDefault "description1000" (list? description?) []).decode?

def rating? : Json → Option String := (withDefault "code" string? "").decode?

def movie? : Json → Option Movie :=
  (Movie.mk <$> loose "year" <*> nullable "duration" (signed? 64)).decode?

def episodeNumber? : Json → Option EpisodeNumber :=
  (EpisodeNumber.mk <$> withDefault "season" (signed? 32) 0
    <*> withDefault "episode" (signed? 32) 0).decode?

def numbering? : Json → Option (Option EpisodeNumber) :=
  (nullable "Gracenote" episodeNumber?).decode?

def fields : Fields ProgramDetails :=
  ProgramDetails.mk <$> required "programID" string?
    <*> withDefault "titles" (list? title?) []
    <*> nullable "entityType" string?
    <*> nullable "episodeTitle150" string?
    <*> nullable "descriptions" descriptions?
    <*> withDefault "contentRating" (list? rating?) []
    <*> nullable "genres" (list? string?)
    <*> nullable "originalAirDate" string?
    <*> nullable "movie" movie?
    <*> withDefault "metadata" (list? numbering?) []
    <*> nullable "audience" string?
    <*> withDefault "hasImageArtwork" bool? false

def ofJson? : Json → Option ProgramDetails := fields.decode?

def isEntity (d : ProgramDetails) (kind : String) : Bool :=
  d.entityType.any (Text.sameIgnoringCase · kind)

end ProgramDetails

end ProgramGuide
