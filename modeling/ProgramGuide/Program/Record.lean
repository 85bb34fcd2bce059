import ProgramGuide.Artwork.Selection
import ProgramGuide.Program.Audio
import ProgramGuide.Program.Details
import ProgramGuide.Program.Identity
import ProgramGuide.Program.Rating
import ProgramGuide.Schedule.Airing

/-!
# Program records

One airing with the details and the pictures of its program merged in.
-/

namespace ProgramGuide

structure ProgramRecord where
  id : String
  channelId : String
  name : String
  episodeTitle : Option String
  overview : Option String
  start : Instant
  stop : Instant
  audio : Audio
  officialRating : Option String
  genres : List String
  firstAired : Option Date
  productionYear : Option Int
  isSeries : Bool
  showId : String
  seriesId : Option String
  seriesProviderIds : List (String × String)
  season : Option Int
  episode : Option Int
  isRepeat : Bool
  isMovie : Bool
  isSports : Bool
  isKids : Bool
  isNews : Bool
  isLive : Bool
  isPremiere : Bool
  isHd : Bool
  is3d : Bool
  imageUrl : Option String
  thumbImageUrl : Option String
  backdropImageUrl : Option String
  contentHash : Option String
  deriving DecidableEq, Repr

namespace ProgramDetails

/-- A program is an episode by its type, or by a generic id of full length. -/
def isSeries (d : ProgramDetails) (programId : String) : Bool :=
  d.isEntity "episode" ||
    (ProgramId.isGeneric programId && 14 ≤ Text.byteLength programId.toList)

def name (d : ProgramDetails) : String := (d.titles.head?.getD none).getD "Unknown"

def firstText (texts : List (Option String)) : Option String :=
  (texts.head?.getD none).bind Text.nonBlank?

/-- The first long description, else the first short one; blank ones do not count. -/
def overview (d : ProgramDetails) : Option String :=
  match d.descriptions with
  | some descriptions =>
      match firstText descriptions.long with
      | some text => some text
      | none => firstText descriptions.short
  | none => none

def rating (d : ProgramDetails) : Option String := d.ratings.head?.bind Rating.normalize?

def namedGenres (d : ProgramDetails) : List String :=
  (d.genres.getD []).filter fun g => !Text.blank g

/-- A date as the whole trimmed text, else as its first ten bytes. -/
def airDate (d : ProgramDetails) : Option Date :=
  match d.firstAired with
  | some s =>
      let cs := Text.trimChars s.toList
      match Date.read? cs with
      | some date => some date
      | none => (Text.takeBytes? 10 cs).bind Date.read?
  | none => none

def movieYear (d : ProgramDetails) : Option Int :=
  (d.movie.bind (·.year)).bind fun s => Text.signed? 32 (Text.trimChars s.toList)

def productionYear (d : ProgramDetails) : Option Int :=
  match d.movieYear with
  | some year => some year
  | none => d.airDate.map Date.year

def episodeNumber (d : ProgramDetails) : Option EpisodeNumber :=
  d.numberings.findSome? id

end ProgramDetails

namespace ProgramRecord

def seriesProvider : String := "Zap2It"

def ofIdentity (identity channel : String) (airing : Airing) (details : ProgramDetails)
    (images : Option ProgramImages) : ProgramRecord :=
  let series := details.isSeries airing.programId
  let root := ProgramId.root airing.programId
  let numbering := if series then details.episodeNumber else none
  let genres := details.namedGenres
  let hasVideo tag := (airing.videoTags.getD []).any (Text.sameIgnoringCase · tag)
  { id := identity
    channelId := channel
    name := details.name
    episodeTitle := details.episodeTitle
    overview := details.overview
    start := airing.start
    stop := airing.stop
    audio := Audio.ofTags airing.audioTags
    officialRating := details.rating
    genres := genres
    firstAired := details.airDate
    productionYear := details.productionYear
    isSeries := series
    showId := ProgramId.showId airing.programId identity
    seriesId := if series then some root else none
    seriesProviderIds := if series then [(seriesProvider, root)] else []
    season := numbering.map (·.season)
    episode := (numbering.map (·.episode)).filter fun n => 0 < n
    isRepeat := airing.isNew.isNone
    isMovie := details.isEntity "movie"
    isSports := details.isEntity "sports"
    isKids :=
      details.audience.any (Text.sameIgnoringCase · "children") ||
        Text.listsIgnoringCase genres "children"
    isNews := Text.listsIgnoringCase genres "news"
    isLive := airing.liveTapeDelay.any (Text.sameIgnoringCase · "live")
    isPremiere :=
      airing.premiere ||
        airing.premiereOrFinale.any fun s =>
          Text.occursIn "premiere".toList (Text.foldCase s.toList)
    isHd := hasVideo "hdtv"
    is3d := hasVideo "3d"
    imageUrl := images.bind (·.primary)
    thumbImageUrl := images.bind (·.thumb)
    backdropImageUrl := images.bind (·.backdrop)
    contentHash := airing.contentHash }

def merge? (channel : String) (airing : Airing) (details : ProgramDetails)
    (images : Option ProgramImages) : Option ProgramRecord :=
  (airing.identity? channel).map fun identity =>
    ofIdentity identity channel airing details images

def toJson (r : ProgramRecord) : Json :=
  .object
    [("id", .string r.id), ("channel_id", .string r.channelId),
     ("name", .string r.name),
     ("episode_title", Json.optional .string r.episodeTitle),
     ("overview", Json.optional .string r.overview),
     ("start_date", .string r.start.text), ("end_date", .string r.stop.text),
     ("audio", .string r.audio.name),
     ("official_rating", Json.optional .string r.officialRating),
     ("genres", Json.list .string r.genres),
     ("original_air_date", Json.optional (.string ·.text) r.firstAired),
     ("production_year", Json.optional Json.integer r.productionYear),
     ("is_series", .bool r.isSeries), ("show_id", .string r.showId),
     ("series_id", Json.optional .string r.seriesId),
     ("series_provider_ids",
       .object (r.seriesProviderIds.map fun (name, id) => (name, .string id))),
     ("season_number", Json.optional Json.integer r.season),
     ("episode_number", Json.optional Json.integer r.episode),
     ("is_repeat", .bool r.isRepeat), ("is_movie", .bool r.isMovie),
     ("is_sports", .bool r.isSports), ("is_kids", .bool r.isKids),
     ("is_news", .bool r.isNews), ("is_live", .bool r.isLive),
     ("is_premiere", .bool r.isPremiere), ("is_hd", .bool r.isHd),
     ("is_3d", .bool r.is3d),
     ("image_url", Json.optional .string r.imageUrl),
     ("thumb_image_url", Json.optional .string r.thumbImageUrl),
     ("backdrop_image_url", Json.optional .string r.backdropImageUrl),
     ("etag", Json.optional .string r.contentHash)]

end ProgramRecord

end ProgramGuide
