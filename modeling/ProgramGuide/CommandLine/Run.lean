import ProgramGuide.CommandLine.FileTree
import ProgramGuide.CommandLine.Invocation
import ProgramGuide.Settings.Check

/-!
# Running a command

A command is a task on the service, which ends in what is to be printed or in a fault.
-/

namespace ProgramGuide.CommandLine

inductive RunFault where
  | settings (fault : Settings.LoadFault)
  | client
  | windowReversed
  | windowUnbounded
  | service (failure : Failure)
  deriving DecidableEq, Repr

def RunFault.message : RunFault → String
  | .settings (.setting .tooDeep) => Toml.Fault.tooDeep.message
  | .settings (.setting _) => Toml.Fault.malformed.message
  | .settings (.configuration cause) => (Failure.configuration cause).message
  | .client => "Failed to create listings engine"
  | .windowReversed => "--end must not be before --start"
  | .windowUnbounded => "a day after --start lies beyond the last instant"
  | .service failure => failure.message

structure Report where
  code : Nat
  output : String
  fault : Option String
  deriving DecidableEq, Repr

namespace Report

def success (output : String) : Report := ⟨0, output, none⟩

def failed (message : String) : Report := ⟨1, "", some message⟩

def aborted (message : String) : Report := ⟨101, "", some message⟩

/-- A window that the calendar cannot hold and a start without ticks end the program. -/
def ofFault : RunFault → Report
  | .windowUnbounded => aborted RunFault.windowUnbounded.message
  | .service .overflow => aborted Failure.overflow.message
  | fault => failed fault.message

def ofResult : Except RunFault String → Report
  | .ok output => success output
  | .error fault => ofFault fault

def help : String := "Usage: listings-sync [OPTIONS] <COMMAND>\n"

def ofStop : Stop → Report
  | .usage => ⟨2, "", none⟩
  | .help => success help
  | .version => success (Settings.programName ++ " " ++ Settings.version ++ "\n")

end Report

abbrev Run := ExceptT RunFault Task

def perform (op : Operation α) : Run α :=
  ExceptT.mk (op.run.bind fun result => .done (result.mapError .service))

def printed (j : Json) : String := j.writeLaidOut ++ "\n"

def provider (zones : Zones) (s : Settings) : Except RunFault Provider := do
  if !s.agentIsSendable then throw .client
  let zone ← (s.zone zones).mapError fun cause => .settings (.configuration cause)
  return ⟨s.tokenPolicy, zone, s.service.baseUrl⟩

/-- How long a window is when its end is not given.  Every window must have room for it. -/
def standardWindow : Int := 24 * 3600

def Command.run (s : Settings) (provider : Provider) : Command → Run String
  | .programs stations start stop => do
      let start ←
        match start with
        | some start => pure start
        | none => perform Operation.now
      let some standard := start.later? standardWindow 0 | throw .windowUnbounded
      let stop := stop.getD standard
      if stop.before start then throw .windowReversed
      let records ←
        stations.mapM fun station =>
          perform (provider.programs s.providerAccount station start stop)
      return printed (Json.list ProgramRecord.toJson records.flatten)
  | .channels => do
      let channels ← perform (provider.channels s.providerAccount)
      return printed (Json.list Channel.toJson channels)
  | .lineups country postalCode => do
      let lineups ←
        perform
          (provider.lineups s.providerAccount (country.getD s.account.country)
            (postalCode.getD s.account.postalCode))
      return printed (Json.list LineupSummary.toJson lineups)
  | .validate listings => do
      perform (provider.validate s.providerAccount true listings)
      return ""

def Invocation.path (i : Invocation) (env : Environment) : String :=
  i.settingsFile.getD (Settings.pathIn env)

def Invocation.run (i : Invocation) (zones : Zones) (file : Option String)
    (env : Environment) : Task Report :=
  let prepared := do
    let s ← (Settings.load zones file env).mapError RunFault.settings
    return (s, ← provider zones s)
  match prepared with
  | .ok (s, provider) => (i.command.run s provider).run.bind fun r => .done (.ofResult r)
  | .error fault => .done (.failed fault.message)

/-! ## Files -/

/-- The text of the settings file; where there is none, one is made. -/
def openSettings (path : String) (tree : FileTree) :
    Except FileFault (Option String × FileTree) := do
  if tree.has path then return (some (← tree.read path), tree)
  else return (none, ← tree.create path Settings.standard.fileText)

def runIn (zones : Zones) (tree : FileTree) (env : Environment) (arguments : List String) :
    Task Report × FileTree :=
  match Invocation.read arguments with
  | .error stop => (.done (.ofStop stop), tree)
  | .ok invocation =>
      match openSettings (invocation.path env) tree with
      | .error fault => (.done (.failed fault.message), tree)
      | .ok (file, tree) => (invocation.run zones file env, tree)

end ProgramGuide.CommandLine
