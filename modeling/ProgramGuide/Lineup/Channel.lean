import ProgramGuide.Json.Decoding
import ProgramGuide.Text.Blank
import ProgramGuide.Text.Case

/-!
# Channels of a lineup

Every slot of a lineup's map is joined with the station it names.
-/

namespace ProgramGuide

structure ChannelSlot where
  stationId : String
  channel : Option String
  logicalNumber : Option String
  major : Option Int
  minor : Option Int
  deriving DecidableEq, Repr

structure Station where
  stationId : String
  name : Option String
  callSign : Option String
  /-- Absent without a logo; the logo may lack its address. -/
  logo : Option (Option String)
  deriving DecidableEq, Repr

structure Lineup where
  slots : List ChannelSlot
  stations : List Station
  deriving DecidableEq, Repr

structure Channel where
  id : String
  number : String
  name : String
  callSign : Option String
  imageUrl : Option String
  deriving DecidableEq, Repr

namespace ChannelSlot

open Json Fields in
def fields : Fields ChannelSlot :=
  ChannelSlot.mk <$> required "stationID" string? <*> nullable "channel" string?
    <*> nullable "logicalChannelNumber" string?
    <*> nullable "atscMajor" (signed? 32)
    <*> nullable "atscMinor" (signed? 32)

def ofJson? : Json → Option ChannelSlot := fields.decode?

/-- The number as given: the logical one, else the channel, else the broadcast pair. -/
def givenNumber (slot : ChannelSlot) : String :=
  match slot.logicalNumber.bind Text.nonBlank?, slot.channel.bind Text.nonBlank? with
  | some number, _ => number
  | none, some number => number
  | none, none =>
      Text.integer (slot.major.getD 0) ++ "." ++ Text.integer (slot.minor.getD 0)

def number (slot : ChannelSlot) : String :=
  String.ofList (slot.givenNumber.toList.dropWhile (· == '0'))

end ChannelSlot

namespace Station

open Json Fields in
def fields : Fields Station :=
  Station.mk <$> required "stationID" string? <*> nullable "name" string?
    <*> nullable "callsign" string?
    <*> nullable "logo" (nullable "URL" string?).decode?

def ofJson? : Json → Option Station := fields.decode?

end Station

namespace Lineup

open Json Fields in
def fields : Fields Lineup :=
  Lineup.mk <$> withDefault "map" (list? ChannelSlot.ofJson?) []
    <*> withDefault "stations" (list? Station.ofJson?) []

def ofJson? : Json → Option Lineup := fields.decode?

def station? (lineup : Lineup) (id : String) : Option Station :=
  lineup.stations.find? fun s => Text.sameIgnoringCase s.stationId id

end Lineup

namespace Channel

def ofSlot (slot : ChannelSlot) : Option Station → Channel
  | none =>
      { id := slot.stationId, number := slot.number, name := slot.number
        callSign := none, imageUrl := none }
  | some station =>
      { id := station.stationId
        number := slot.number
        name := (station.name.bind Text.nonBlank?).getD slot.number
        callSign := station.callSign
        imageUrl := station.logo.getD none }

def toJson (c : Channel) : Json :=
  .object
    [("id", .string c.id), ("number", .string c.number), ("name", .string c.name),
     ("call_sign", Json.optional .string c.callSign),
     ("image_url", Json.optional .string c.imageUrl)]

end Channel

def Lineup.channels (lineup : Lineup) : List Channel :=
  lineup.slots.map fun slot => .ofSlot slot (lineup.station? slot.stationId)

end ProgramGuide
