import ProgramGuide.Artwork.Candidate
import ProgramGuide.Lineup.Channel
import ProgramGuide.Lineup.Descriptor
import ProgramGuide.Program.Details
import ProgramGuide.Proofs.Json.Decoding
import ProgramGuide.Schedule.Airing
import ProgramGuide.Service.Tokens

/-!
# Payloads of the service

Every type of payload has its shape.  Reading one does not notice changes of that shape:
the service may add members, move them, and leave out those that have a default.
-/

namespace ProgramGuide

open Json Fields

/-! ## Leaves -/

namespace Json.Shape

variable {s : Shape}

theorem respects_string : Respects s.Step string? := Json.respects_string.of_rough Step.rough

theorem respects_bool : Respects s.Step bool? := Json.respects_bool.of_rough Step.rough

theorem respects_signed (bits : Nat) : Respects s.Step (signed? bits) :=
  (Json.respects_signed bits).of_rough Step.rough

theorem respects_instant : Respects s.Step Instant.ofJson? :=
  fun _ _ h => congrArg (·.bind Instant.read?) (respects_string h)

theorem depends_nullable (name : String) {decode : Json → Option α}
    (h : Respects s.Step decode) :
    (nullable name decode).Depends Step [.optional name .null s] :=
  Fields.depends_nullable name Step.rough h

end Json.Shape

open Shape (respects_string respects_bool respects_signed respects_instant depends_nullable)

/-! ## Schedules -/

namespace Airing

def shape : Shape := .record false
  [.required "programID" .scalar, .required "airDateTime" .scalar,
   .optional "duration" (Json.integer 0) .scalar, .optional "md5" .null .scalar,
   .optional "audioProperties" .null (.list .scalar),
   .optional "videoProperties" .null (.list .scalar), .optional "new" .null .scalar,
   .optional "liveTapeDelay" .null .scalar, .optional "premiere" (.bool false) .scalar,
   .optional "isPremiereOrFinale" .null .scalar]

theorem respects : Respects shape.Step ofJson? :=
  Depends.respects <|
    (depends_required "programID" respects_string).map Airing.mk
      |>.apply (depends_required "airDateTime" respects_instant)
      |>.apply (depends_withDefault "duration" (respects_signed 64) rfl)
      |>.apply (depends_nullable "md5" respects_string)
      |>.apply (depends_nullable "audioProperties" respects_string.list)
      |>.apply (depends_nullable "videoProperties" respects_string.list)
      |>.apply (depends_nullable "new" respects_bool)
      |>.apply (depends_nullable "liveTapeDelay" respects_string)
      |>.apply (depends_withDefault "premiere" respects_bool rfl)
      |>.apply (depends_nullable "isPremiereOrFinale" respects_string)

end Airing

namespace ScheduleDay

def shape : Shape := .record false
  [.optional "stationID" (.string "") .scalar,
   .optional "programs" (.array []) (.list Airing.shape)]

theorem respects : Respects shape.Step ofJson? :=
  Depends.respects <|
    (depends_withDefault "stationID" respects_string rfl).map ScheduleDay.mk
      |>.apply (depends_withDefault "programs" Airing.respects.list rfl)

end ScheduleDay

/-! ## Programs -/

namespace ProgramDetails

def titleShape : Shape := .record false [.optional "title120" .null .scalar]

def descriptionShape : Shape := .record false [.optional "description" .null .scalar]

def descriptionsShape : Shape := .record false
  [.optional "description100" (.array []) (.list descriptionShape),
   .optional "description1000" (.array []) (.list descriptionShape)]

def ratingShape : Shape := .record false [.optional "code" (.string "") .scalar]

def movieShape : Shape := .record false
  [.optional "year" .null .scalar, .optional "duration" .null .scalar]

def episodeNumberShape : Shape := .record false
  [.optional "season" (Json.integer 0) .scalar, .optional "episode" (Json.integer 0) .scalar]

def numberingShape : Shape := .record false [.optional "Gracenote" .null episodeNumberShape]

def shape : Shape := .record false
  [.required "programID" .scalar, .optional "titles" (.array []) (.list titleShape),
   .optional "entityType" .null .scalar, .optional "episodeTitle150" .null .scalar,
   .optional "descriptions" .null descriptionsShape,
   .optional "contentRating" (.array []) (.list ratingShape),
   .optional "genres" .null (.list .scalar), .optional "originalAirDate" .null .scalar,
   .optional "movie" .null movieShape,
   .optional "metadata" (.array []) (.list numberingShape),
   .optional "audience" .null .scalar, .optional "hasImageArtwork" (.bool false) .scalar]

theorem respects_title : Respects titleShape.Step title? :=
  (depends_nullable "title120" respects_string).respects

theorem respects_description : Respects descriptionShape.Step description? :=
  (depends_nullable "description" respects_string).respects

theorem respects_descriptions : Respects descriptionsShape.Step descriptions? :=
  Depends.respects <|
    (depends_withDefault "description100" respects_description.list rfl).map Descriptions.mk
      |>.apply (depends_withDefault "description1000" respects_description.list rfl)

theorem respects_rating : Respects ratingShape.Step rating? :=
  (depends_withDefault "code" respects_string rfl).respects

theorem respects_movie : Respects movieShape.Step movie? :=
  Depends.respects <|
    (depends_loose "year" Shape.Step.rough).map Movie.mk
      |>.apply (depends_nullable "duration" (respects_signed 64))

theorem respects_episodeNumber : Respects episodeNumberShape.Step episodeNumber? :=
  Depends.respects <|
    (depends_withDefault "season" (respects_signed 32) rfl).map EpisodeNumber.mk
      |>.apply (depends_withDefault "episode" (respects_signed 32) rfl)

theorem respects_numbering : Respects numberingShape.Step numbering? :=
  (depends_nullable "Gracenote" respects_episodeNumber).respects

theorem respects : Respects shape.Step ofJson? :=
  Depends.respects <|
    (depends_required "programID" respects_string).map ProgramDetails.mk
      |>.apply (depends_withDefault "titles" respects_title.list rfl)
      |>.apply (depends_nullable "entityType" respects_string)
      |>.apply (depends_nullable "episodeTitle150" respects_string)
      |>.apply (depends_nullable "descriptions" respects_descriptions)
      |>.apply (depends_withDefault "contentRating" respects_rating.list rfl)
      |>.apply (depends_nullable "genres" respects_string.list)
      |>.apply (depends_nullable "originalAirDate" respects_string)
      |>.apply (depends_nullable "movie" respects_movie)
      |>.apply (depends_withDefault "metadata" respects_numbering.list rfl)
      |>.apply (depends_nullable "audience" respects_string)
      |>.apply (depends_withDefault "hasImageArtwork" respects_bool rfl)

end ProgramDetails

/-! ## Artwork -/

namespace ArtworkCandidate

def entries : List (Entry Shape) :=
  [.optional "width" .null .scalar, .optional "height" .null .scalar,
   .optional "uri" .null .scalar, .optional "text" .null .scalar]

def shape : Shape := .record false entries

theorem depends {R : Shape → Json → Json → Prop}
    (hrough : ∀ {s j j'}, R s j j' → Rough j j') : fields.Depends R entries :=
  have htext {s : Shape} : Respects (R s) string? := Json.respects_string.of_rough hrough
  (depends_loose "width" hrough).map ArtworkCandidate.mk
    |>.apply (depends_loose "height" hrough)
    |>.apply (Fields.depends_nullable "uri" hrough htext)
    |>.apply (Fields.depends_nullable "text" hrough htext)

theorem respects : Respects shape.Step ofJson? := (depends Shape.Step.rough).respects

theorem respects_settle : Respects (Shape.record true entries).Varies (ofJson? ·.settle) :=
  (depends id).respects_settled (by simp [entries, Entry.optional, settle])

end ArtworkCandidate

namespace ShowArtwork

def shapeWith (data : Shape) : Shape := .record false
  [.required "programID" .scalar, .optional "data" (.array []) data]

/-- The candidates must be usable as a whole, and are settled. -/
def shape (depth : Nat) : Shape :=
  shapeWith (.whole (depth - 1) (.list (.record true ArtworkCandidate.entries)))

theorem respects_candidates (depth : Nat) :
    Respects (Shape.whole depth (.list (.record true ArtworkCandidate.entries))).Step
      (candidates? depth) := by
  rintro j j' ⟨hkeeps, hvaries⟩
  have husable : j.usable depth = j'.usable depth := hkeeps
  unfold candidates?
  rw [husable]
  cases hvaries.rough with
  | objects => rfl
  | arrays =>
      cases hvaries with
      | item _ _ _ hitem =>
          have hcandidate := ArtworkCandidate.respects_settle (hitem _ rfl)
          simp only [settle, settleItems_eq_map, List.filterMap_map, List.filterMap_append,
            List.filterMap_cons, Function.comp_apply, hcandidate]

/-- There must be room for data, even if there are none. -/
theorem respects {depth : Nat} (h : 2 ≤ depth) :
    Respects (shape depth).Step (ofJson? depth) := by
  obtain ⟨depth, rfl⟩ := Nat.exists_eq_add_of_le' h
  exact Depends.respects <|
    (depends_required "programID" respects_string).map ShowArtwork.mk
      |>.apply (depends_withDefault "data" (respects_candidates (depth + 1)) rfl)

end ShowArtwork

/-! ## Lineups -/

namespace ChannelSlot

def shape : Shape := .record false
  [.required "stationID" .scalar, .optional "channel" .null .scalar,
   .optional "logicalChannelNumber" .null .scalar, .optional "atscMajor" .null .scalar,
   .optional "atscMinor" .null .scalar]

theorem respects : Respects shape.Step ofJson? :=
  Depends.respects <|
    (depends_required "stationID" respects_string).map ChannelSlot.mk
      |>.apply (depends_nullable "channel" respects_string)
      |>.apply (depends_nullable "logicalChannelNumber" respects_string)
      |>.apply (depends_nullable "atscMajor" (respects_signed 32))
      |>.apply (depends_nullable "atscMinor" (respects_signed 32))

end ChannelSlot

namespace Station

def logo? : Json → Option (Option String) := (nullable "URL" string?).decode?

def logoShape : Shape := .record false [.optional "URL" .null .scalar]

def shape : Shape := .record false
  [.required "stationID" .scalar, .optional "name" .null .scalar,
   .optional "callsign" .null .scalar, .optional "logo" .null logoShape]

theorem respects_logo : Respects logoShape.Step logo? :=
  (depends_nullable "URL" respects_string).respects

theorem respects : Respects shape.Step ofJson? :=
  Depends.respects <|
    (depends_required "stationID" respects_string).map Station.mk
      |>.apply (depends_nullable "name" respects_string)
      |>.apply (depends_nullable "callsign" respects_string)
      |>.apply (depends_nullable "logo" respects_logo)

end Station

namespace Lineup

def shape : Shape := .record false
  [.optional "map" (.array []) (.list ChannelSlot.shape),
   .optional "stations" (.array []) (.list Station.shape)]

theorem respects : Respects shape.Step ofJson? :=
  Depends.respects <|
    (depends_withDefault "map" ChannelSlot.respects.list rfl).map Lineup.mk
      |>.apply (depends_withDefault "stations" Station.respects.list rfl)

end Lineup

namespace LineupDescriptor

def shape : Shape := .record false
  [.optional "lineup" (.string "") .scalar, .optional "name" .null .scalar,
   .optional "uri" (.string "") .scalar]

def listShape : Shape := .record false [.optional "lineups" (.array []) (.list shape)]

theorem respects : Respects shape.Step ofJson? :=
  Depends.respects <|
    (depends_withDefault "lineup" respects_string rfl).map LineupDescriptor.mk
      |>.apply (depends_nullable "name" respects_string)
      |>.apply (depends_withDefault "uri" respects_string rfl)

theorem respects_list : Respects listShape.Step listOfJson? :=
  (depends_withDefault "lineups" respects.list rfl).respects

end LineupDescriptor

/-! ## Tokens -/

namespace TokenReply

def shape : Shape := .record false
  [.optional "message" .null .scalar, .optional "token" .null .scalar]

theorem respects : Respects shape.Step ofJson? :=
  Depends.respects <|
    (depends_nullable "message" respects_string).map TokenReply.mk
      |>.apply (depends_nullable "token" respects_string)

end TokenReply

/-! ## All payloads -/

/-- What the service sends, by its type. -/
inductive Part where
  | day | airing
  | details | title | descriptions | description | rating | movie | numbering | episodeNumber
  | artwork | candidate
  | lineup | slot | station | logo
  /-- The lineups of an account, and those of a headend. -/
  | lineups
  | descriptor
  | token

namespace Part

def Value : Part → Type
  | day => ScheduleDay
  | airing => Airing
  | details => ProgramDetails
  | title => Option String
  | descriptions => Descriptions
  | description => Option String
  | rating => String
  | movie => Movie
  | numbering => Option EpisodeNumber
  | episodeNumber => EpisodeNumber
  | artwork => ShowArtwork
  | candidate => ArtworkCandidate
  | lineup => Lineup
  | slot => ChannelSlot
  | station => Station
  | logo => Option String
  | lineups => List LineupDescriptor
  | descriptor => LineupDescriptor
  | token => TokenReply

/-- Reads a part that may be nested so deep. -/
def decode? (depth : Nat) : (p : Part) → Json → Option p.Value
  | day => ScheduleDay.ofJson?
  | airing => Airing.ofJson?
  | details => ProgramDetails.ofJson?
  | title => ProgramDetails.title?
  | descriptions => ProgramDetails.descriptions?
  | description => ProgramDetails.description?
  | rating => ProgramDetails.rating?
  | movie => ProgramDetails.movie?
  | numbering => ProgramDetails.numbering?
  | episodeNumber => ProgramDetails.episodeNumber?
  | artwork => ShowArtwork.ofJson? depth
  | candidate => ArtworkCandidate.ofJson?
  | lineup => Lineup.ofJson?
  | slot => ChannelSlot.ofJson?
  | station => Station.ofJson?
  | logo => Station.logo?
  | lineups => LineupDescriptor.listOfJson?
  | descriptor => LineupDescriptor.ofJson?
  | token => TokenReply.ofJson?

def shape (depth : Nat) : Part → Shape
  | day => ScheduleDay.shape
  | airing => Airing.shape
  | details => ProgramDetails.shape
  | title => ProgramDetails.titleShape
  | descriptions => ProgramDetails.descriptionsShape
  | description => ProgramDetails.descriptionShape
  | rating => ProgramDetails.ratingShape
  | movie => ProgramDetails.movieShape
  | numbering => ProgramDetails.numberingShape
  | episodeNumber => ProgramDetails.episodeNumberShape
  | artwork => ShowArtwork.shape depth
  | candidate => ArtworkCandidate.shape
  | lineup => Lineup.shape
  | slot => ChannelSlot.shape
  | station => Station.shape
  | logo => Station.logoShape
  | lineups => LineupDescriptor.listShape
  | descriptor => LineupDescriptor.shape
  | token => TokenReply.shape

theorem respects {depth : Nat} (h : 2 ≤ depth) (p : Part) :
    Respects (p.shape depth).Step (p.decode? depth) := by
  cases p with
  | day => exact ScheduleDay.respects
  | airing => exact Airing.respects
  | details => exact ProgramDetails.respects
  | title => exact ProgramDetails.respects_title
  | descriptions => exact ProgramDetails.respects_descriptions
  | description => exact ProgramDetails.respects_description
  | rating => exact ProgramDetails.respects_rating
  | movie => exact ProgramDetails.respects_movie
  | numbering => exact ProgramDetails.respects_numbering
  | episodeNumber => exact ProgramDetails.respects_episodeNumber
  | artwork => exact ShowArtwork.respects h
  | candidate => exact ArtworkCandidate.respects
  | lineup => exact Lineup.respects
  | slot => exact ChannelSlot.respects
  | station => exact Station.respects
  | logo => exact Station.respects_logo
  | lineups => exact LineupDescriptor.respects_list
  | descriptor => exact LineupDescriptor.respects
  | token => exact TokenReply.respects

end Part

/-- A document of the service. -/
inductive Payload where
  | one (part : Part)
  | list (part : Part)

namespace Payload

def Value : Payload → Type
  | one part => part.Value
  | list part => List part.Value

def decode? : (p : Payload) → Json → Option p.Value
  | one part => part.decode? nestingLimit
  | list part => list? (part.decode? (nestingLimit - 1))

def shape : Payload → Shape
  | one part => part.shape nestingLimit
  | list part => .list (part.shape (nestingLimit - 1))

theorem respects (p : Payload) : Respects p.shape.Step p.decode? := by
  cases p with
  | one part => exact part.respects (by decide)
  | list part => exact (part.respects (by decide)).list

/-- Payloads of one shape that differ in members unknown to their type, in the order of
members and in defaults left out are read alike: both fail, or both give one value. -/
theorem decode?_of_changes (p : Payload) {j j' : Json}
    (h : Relation.EqvGen p.shape.Step j j') : p.decode? j = p.decode? j' :=
  p.respects.eqvGen h

end Payload

namespace Posters

def poster (candidate : List (String × Json)) : Json :=
  .object [("programID", .string "EP01"), ("data", .array [.object candidate])]

/-- A change to a candidate is one to the artwork, if it keeps what it must. -/
theorem varies_poster {data item : Shape} {xs ys : List (String × Json)}
    (hitem : item.Step (.object xs) (.object ys)) (hdata : data.item? 0 = some item)
    (hkeeps : data.Keeps (.array [.object xs]) (.array [.object ys])) :
    (ShowArtwork.shapeWith data).Varies (poster xs) (poster ys) := by
  have hpart {part : Shape} (hpart : data.item? 0 = some part) :
      part.Step (.object xs) (.object ys) := by
    obtain rfl : item = part := Option.some.inj (hdata.symm.trans hpart)
    exact hitem
  have hlist : data.Varies (.array [.object xs]) (.array [.object ys]) :=
    .item [] [] (fun _ h => (hpart h).1) fun _ h => (hpart h).2
  refine .member [("programID", .string "EP01")] [] ?_ ?_
  · simpa [ShowArtwork.shapeWith, Shape.entries, Entry.required, Entry.optional] using hkeeps
  · simpa [ShowArtwork.shapeWith, Shape.entries, Entry.required, Entry.optional] using hlist

theorem varies_list {item : Shape} {j j' : Json} (h : item.Varies j j')
    (hkeeps : item.Keeps j j') : (Shape.list item).Varies (.array [j]) (.array [j']) := by
  refine .item [] [] ?_ ?_
  · rintro _ ⟨⟩
    exact hkeeps
  · rintro _ ⟨⟩
    exact h

/-- The shape of artwork whose candidates are like any other record. -/
def plainShape : Shape := ShowArtwork.shapeWith (.list ArtworkCandidate.shape)

def nested : Nat → Json
  | 0 => .null
  | n + 1 => .array [nested n]

end Posters

open Posters in
theorem Payload.decode?_of_changes_poster :
    (Payload.one .artwork).decode? (poster [("uri", .string "a"), ("text", .null)]) =
      (Payload.one .artwork).decode? (poster [("kind", .object []), ("uri", .string "a")]) := by
  have hinsert : (Shape.record true ArtworkCandidate.entries).Step
      (.object [("uri", .string "a"), ("text", .null)])
      (.object [("kind", .object []), ("uri", .string "a"), ("text", .null)]) :=
    ⟨trivial, .insert [] _ "kind" (.object []) (by decide)⟩
  have hleave : (Shape.record true ArtworkCandidate.entries).Step
      (.object [("kind", .object []), ("uri", .string "a"), ("text", .null)])
      (.object [("kind", .object []), ("uri", .string "a")]) :=
    ⟨trivial, .leave [("kind", .object []), ("uri", .string "a")] []
      (by simp [Shape.entries, ArtworkCandidate.entries, Entry.optional]) (by simp)⟩
  exact Payload.decode?_of_changes (.one .artwork)
    (.trans _ _ _ (.rel _ _ ⟨trivial, varies_poster hinsert rfl rfl⟩)
      (.rel _ _ ⟨trivial, varies_poster hleave rfl rfl⟩))

open Posters in
/-- Artwork does notice something nested too deep in a candidate, and the order of two
members of one key. -/
theorem Payload.not_decode?_of_plain_changes :
    ((Shape.list plainShape).Step (.array [poster [("uri", .string "a")]])
        (.array [poster [("uri", .string "a"), ("more", nested 124)]]) ∧
      (Payload.list .artwork).decode? (.array [poster [("uri", .string "a")]]) ≠
        (Payload.list .artwork).decode?
          (.array [poster [("uri", .string "a"), ("more", nested 124)]])) ∧
    (plainShape.Step (poster [("uri", .string "a"), ("uri", .string "b")])
        (poster [("uri", .string "b"), ("uri", .string "a")]) ∧
      (Payload.one .artwork).decode? (poster [("uri", .string "a"), ("uri", .string "b")]) ≠
        (Payload.one .artwork).decode?
          (poster [("uri", .string "b"), ("uri", .string "a")])) := by
  have hinsert : ArtworkCandidate.shape.Step (.object [("uri", .string "a")])
      (.object [("uri", .string "a"), ("more", nested 124)]) :=
    ⟨trivial, .insert [("uri", .string "a")] [] "more" (nested 124) (by decide)⟩
  have hpermute : ArtworkCandidate.shape.Step
      (.object [("uri", .string "a"), ("uri", .string "b")])
      (.object [("uri", .string "b"), ("uri", .string "a")]) :=
    ⟨trivial, .permute (.swap _ _ _) nofun⟩
  have hdeep : ShowArtwork.listOfJson? (.array [poster [("uri", .string "a")]]) ≠
      ShowArtwork.listOfJson?
        (.array [poster [("uri", .string "a"), ("more", nested 124)]]) := by
    decide +kernel
  have horder : ShowArtwork.ofJson? nestingLimit
        (poster [("uri", .string "a"), ("uri", .string "b")]) ≠
      ShowArtwork.ofJson? nestingLimit
        (poster [("uri", .string "b"), ("uri", .string "a")]) := by
    decide +kernel
  exact ⟨⟨⟨trivial, varies_list (varies_poster hinsert rfl trivial) trivial⟩, hdeep⟩,
    ⟨trivial, varies_poster hpermute rfl trivial⟩, horder⟩

end ProgramGuide
