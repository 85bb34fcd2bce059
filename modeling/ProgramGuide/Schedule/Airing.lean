import ProgramGuide.Calendar.Timestamp
import ProgramGuide.Json.Decoding

/-!
# Airings

A schedule day lists the airings of one station.  Both are read as the listings
service sends them.
-/

namespace ProgramGuide

structure Airing where
  programId : String
  start : Instant
  /-- Length in seconds. -/
  duration : Int
  contentHash : Option String
  audioTags : Option (List String)
  videoTags : Option (List String)
  isNew : Option Bool
  liveTapeDelay : Option String
  premiere : Bool
  premiereOrFinale : Option String
  deriving DecidableEq, Repr

structure ScheduleDay where
  stationId : String
  airings : List Airing
  deriving DecidableEq, Repr

def Instant.ofJson? (j : Json) : Option Instant := j.string?.bind Instant.read?

namespace Airing

open Json Fields in
def fields : Fields Airing :=
  Airing.mk <$> required "programID" string?
    <*> required "airDateTime" Instant.ofJson?
    <*> withDefault "duration" (signed? 64) 0
    <*> nullable "md5" string?
    <*> nullable "audioProperties" (list? string?)
    <*> nullable "videoProperties" (list? string?)
    <*> nullable "new" bool?
    <*> nullable "liveTapeDelay" string?
    <*> withDefault "premiere" bool? false
    <*> nullable "isPremiereOrFinale" string?

def ofJson? : Json → Option Airing := fields.decode?

/-- The end of an airing.  A length that is negative, beyond what a signed word of
milliseconds holds, or beyond the last instant counts as none. -/
def stop (a : Airing) : Instant :=
  if 0 ≤ a.duration && a.duration ≤ 9223372036854775 then
    (a.start.later? a.duration 0).getD a.start
  else a.start

def identityAt (a : Airing) (ticks : Int) (channel : String) : String :=
  a.programId ++ "T" ++ Text.integer ticks ++ "C" ++ channel

/-- What tells an airing on a channel from every other: program, start and channel.
A start without ticks gives none. -/
def identity? (a : Airing) (channel : String) : Option String :=
  a.start.ticks?.map fun ticks => a.identityAt ticks channel

end Airing

namespace ScheduleDay

open Json Fields in
def fields : Fields ScheduleDay :=
  ScheduleDay.mk <$> withDefault "stationID" string? ""
    <*> withDefault "programs" (list? Airing.ofJson?) []

def ofJson? : Json → Option ScheduleDay := fields.decode?

end ScheduleDay

def airingsOf (days : List ScheduleDay) : List Airing := days.flatMap (·.airings)

def firstOfEach (texts : List String) : List String := go [] texts
where
  go (seen : List String) : List String → List String
    | [] => []
    | s :: rest => if seen.contains s then go seen rest else s :: go (s :: seen) rest

def distinctProgramIds (days : List ScheduleDay) : List String :=
  firstOfEach ((airingsOf days).map (·.programId))

end ProgramGuide
