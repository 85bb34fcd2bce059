import ProgramGuide.CommandLine.Run
import Std.Time.Zoned

/-!
# The program

Reads the arguments, the environment and the settings file, runs the command, and
prints its report.
-/

namespace ProgramGuide.CommandLine

def systemNow : IO Instant := do
  let now ← Std.Time.Timestamp.now
  let nanos := now.toNanosecondsSinceUnixEpoch.val
  return ⟨nanos / (Instant.billion : Int), (nanos % (Instant.billion : Int)).toNat⟩

def zoneOf (rules : Std.Time.TimeZone.ZoneRules) : Zone where
  localDate t :=
    let moment := Std.Time.Timestamp.ofSecondsSinceUnixEpoch (.ofInt t.seconds)
    let offset := (rules.findLocalTimeTypeForTimestamp moment).gmtOffset.second.val
    (Zone.fixed offset).localDate t

/-- The name in a settings file under which the zone database is asked for a zone. -/
def askedZone? (file : Option String) : Option String :=
  match file.map Settings.ofTomlText with
  | some (.ok s) => s.zoneName?.map Text.trim
  | _ => none

def namedZone? : Option String → IO (Option Zone)
  | none => return none
  | some name => do
      try
        return some (zoneOf (← Std.Time.Database.defaultGetZoneRules name))
      catch _ => return none

/-- The zone of the host, which is UTC if the host does not say. -/
def systemZone : IO Zone := do
  try
    return zoneOf (← Std.Time.Database.defaultGetLocalZoneRules)
  catch _ => return .fixed 0

/-- The zones that settings with at most one name for a zone can be about. -/
def zonesFor (file : Option String) : IO Zones := do
  let asked := askedZone? file
  let found ← namedZone? asked
  return ⟨← systemZone, fun name => if asked == some name then found else none⟩

/-- Runs a task for a single caller.  There is no connection to the service. -/
def serve (store : IO.Ref TokenStore) : Task α → IO α
  | .done a => return a
  | .clock next => do serve store (next (← systemNow))
  | .inspect next => do serve store (next (← store.get))
  | .amend change next => do
      store.modify change
      serve store next
  | .lock next => serve store (next true)
  | .unlock next => serve store next
  | .exchange _ next => serve store (next (.error .network))

def variableNames : List String :=
  ["LISTINGS_SYNC_CONFIG", "LISTINGS_SYNC_USERNAME", "LISTINGS_SYNC_PASSWORD",
   "LISTINGS_SYNC_LISTINGS_ID"]

def environment : IO Environment :=
  variableNames.filterMapM fun name => do
    return (← IO.getEnv name).map fun value => (name, value)

/-- The code of an error, with or without its sign. -/
def osCode? : IO.Error → Option UInt32
  | .noFileOrDirectory _ code _ => some (min code (0 - code))
  | .inappropriateType _ code _ => some (min code (0 - code))
  | .invalidArgument _ code _ => some (min code (0 - code))
  | .permissionDenied _ code _ => some (min code (0 - code))
  | _ => none

def fileFault? (e : IO.Error) : Option FileFault :=
  match osCode? e with
  | some 2 => some .missing
  | some 20 => some .notDirectory
  | some 21 => some .isDirectory
  | some 36 => some .nameTooLong
  | _ => none

def errorText (e : IO.Error) : String :=
  match fileFault? e, osCode? e with
  | some fault, _ => fault.message
  | none, some 13 => "Permission denied (os error 13)"
  | none, _ => toString e

def isPresent (e : IO.Error) : Bool :=
  match fileFault? e with
  | some .isDirectory => true
  | some _ => false
  | none => true

def readOrWrite (path : String) : IO (Option String) := do
  try
    return some (← IO.FS.readFile path)
  catch e =>
    if isPresent e then throw e
    IO.FS.writeFile path Settings.standard.fileText
    return none

def report (i : Invocation) : IO Report := do
  let env ← environment
  try
    let file ← readOrWrite (i.path env)
    let store ← IO.mkRef TokenStore.empty
    serve store (i.run (← zonesFor file) file env)
  catch e =>
    return .failed (errorText e)

end ProgramGuide.CommandLine

open ProgramGuide.CommandLine in
def main (arguments : List String) : IO UInt32 := do
  let report ←
    match Invocation.read arguments with
    | .ok invocation => report invocation
    | .error stop => pure (.ofStop stop)
  IO.print report.output
  match report.fault with
  | some message => IO.eprintln ("Error: " ++ message)
  | none => pure ()
  return report.code.toUInt32
