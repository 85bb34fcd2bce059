import ProgramGuide.Artwork.Index
import ProgramGuide.Program.Record
import ProgramGuide.Service.Failure

/-!
# Merging a schedule

Every airing becomes a record, in the order of the schedule, or none does.
-/

namespace ProgramGuide

/-- The last details with the id. -/
def detailsOf? (details : List ProgramDetails) (id : String) : Option ProgramDetails :=
  details.reverse.find? fun d => d.programId == id

namespace ProgramRecord

/-- The record of an airing, with the details and the pictures found for it.  Details are
looked for first. -/
def ofAiring (channel : String) (details : List ProgramDetails) (artwork : ArtworkIndex)
    (base : String) (airing : Airing) : Except Failure ProgramRecord :=
  match detailsOf? details airing.programId with
  | some found =>
      let images :=
        (artwork.get? (ProgramId.root airing.programId)).map (ProgramImages.choose base)
      match merge? channel airing found images with
      | some record => .ok record
      | none => .error .overflow
  | none => .error (.missingDetails airing.programId)

def mergeAll (channel : String) (days : List ScheduleDay) (details : List ProgramDetails)
    (artwork : ArtworkIndex) (base : String) : Except Failure (List ProgramRecord) :=
  (airingsOf days).mapM (ofAiring channel details artwork base)

end ProgramRecord

end ProgramGuide
