import ProgramGuide.Json.Decoding
import ProgramGuide.Text.Blank
import ProgramGuide.Text.Search

/-!
# Lineups on offer

The service describes lineups by headend, and the lineups attached to an account.
-/

namespace ProgramGuide

structure LineupDescriptor where
  lineup : String
  name : Option String
  uri : String
  deriving DecidableEq, Repr

structure LineupSummary where
  id : String
  name : String
  deriving DecidableEq, Repr

namespace LineupDescriptor

open Json Fields in
def fields : Fields LineupDescriptor :=
  LineupDescriptor.mk <$> withDefault "lineup" string? "" <*> nullable "name" string?
    <*> withDefault "uri" string? ""

def ofJson? : Json → Option LineupDescriptor := fields.decode?

def listOfJson? : Json → Option (List LineupDescriptor) :=
  (Json.Fields.withDefault "lineups" (Json.list? ofJson?) []).decode?

/-- The id behind the last path marker of the address, else the lineup's own; its name
unless that is blank. -/
def summary (d : LineupDescriptor) : LineupSummary :=
  { id :=
      match Text.afterLast? "/lineups/".toList d.uri.toList with
      | some (c :: cs) => String.ofList (c :: cs)
      | _ => d.lineup
    name := (d.name.bind Text.nonBlank?).getD d.lineup }

end LineupDescriptor

def LineupSummary.toJson (s : LineupSummary) : Json :=
  .object [("id", .string s.id), ("name", .string s.name)]

end ProgramGuide
