import ProgramGuide.Artwork.Index
import ProgramGuide.Program.Details
import ProgramGuide.Program.Identity
import ProgramGuide.Schedule.Airing
import ProgramGuide.Service.Transport

/-!
# Fetching schedules and artwork

A schedule comes in two stages, the airings and then the details of every program in
them.  Artwork is a bonus: when it cannot be had there is none.
-/

namespace ProgramGuide

structure ScheduleBatch where
  days : List ScheduleDay
  details : List ProgramDetails
  deriving DecidableEq, Repr

namespace ScheduleBatch

def empty : ScheduleBatch := ⟨[], []⟩

def airings (batch : ScheduleBatch) : List Airing := airingsOf batch.days

def isEmpty (batch : ScheduleBatch) : Bool := batch.airings.isEmpty

def artworkProgramIds (batch : ScheduleBatch) : List String :=
  (batch.details.filter (·.hasArtwork)).map (·.programId)

end ScheduleBatch

namespace Fetch

def scheduleRequest (station : String) (dates : List String) (token : String) : Request :=
  let wanted := Json.object [("stationID", .string station), ("date", Json.list .string dates)]
  (Request.post "schedules" (.array [wanted])).withToken token

def idsRequest (path : String) (ids : List String) (token : String) : Request :=
  (Request.post path (Json.list .string ids)).withToken token

/-- The schedule of a station on some dates.  Without a token or without dates it is
empty. -/
def schedule (policy : TokenPolicy) (c : Credentials) (station : String)
    (dates : List String) (token : Option String) : Operation ScheduleBatch := do
  match token with
  | none => return .empty
  | some token =>
      if dates.isEmpty then return .empty
      let response ← Transport.send policy true c (scheduleRequest station dates token)
      let days ←
        Operation.ofExcept (response.decode "schedules" (Json.list? ScheduleDay.ofJson?))
      let ids := distinctProgramIds days
      if ids.isEmpty then return ⟨days, []⟩
      let response ← Transport.send policy true c (idsRequest "programs" ids token)
      let details ←
        Operation.ofExcept (response.decode "programs" (Json.list? ProgramDetails.ofJson?))
      return ⟨days, details⟩

def artworkRoots (ids : List String) : List String := firstOfEach (ids.map ProgramId.root)

def artworkOf (policy : TokenPolicy) (c : Credentials) (roots : List String)
    (token : String) : Operation ArtworkIndex := do
  let response ← Transport.send policy true c (idsRequest "metadata/programs" roots token)
  let shows ←
    Operation.ofExcept (response.decode "metadata/programs" ShowArtwork.listOfJson?)
  return .ofShows shows

/-- The artwork of some programs.  Only a cancellation is a failure. -/
def artwork (policy : TokenPolicy) (c : Credentials) (ids : List String)
    (token : String) : Operation ArtworkIndex := do
  let roots := artworkRoots ids
  if roots.isEmpty then return []
  match ← (artworkOf policy c roots token).outcome with
  | .ok index => return index
  | .error .cancelled => throw .cancelled
  | .error _ => return []

end Fetch

end ProgramGuide
