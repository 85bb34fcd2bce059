import ProgramGuide.Calendar.Timestamp
import ProgramGuide.CommandLine.Arguments

/-!
# Invocations

What a command line asks for: a settings file, and one command.
-/

namespace ProgramGuide.CommandLine

inductive Command where
  | programs (channels : List String) (start stop : Option Instant)
  | channels
  | lineups (country postalCode : Option String)
  | validate (listings : Bool)
  deriving DecidableEq, Repr

structure Invocation where
  settingsFile : Option String
  command : Command
  deriving DecidableEq, Repr

private def anyText : String → Bool := fun _ => true

private def isInstant (s : String) : Bool := (Instant.read? s).isSome

def globalRules : List OptionRule :=
  [⟨"config", some 'c', false, .value anyText⟩,
   ⟨"log-level", some 'v', false, .value anyText⟩]

def programsRules : List OptionRule :=
  [⟨"channel", none, true, .value anyText⟩, ⟨"start", none, false, .value isInstant⟩,
   ⟨"end", none, false, .value isInstant⟩]

def lineupsRules : List OptionRule :=
  [⟨"country", none, false, .value anyText⟩, ⟨"postal-code", none, false, .value anyText⟩]

def validateRules : List OptionRule := [⟨"listings", none, false, .flag⟩]

def scanCommand (rules : List OptionRule) (arguments : List String) : Except Stop Given :=
  match scan rules false [] arguments with
  | .ok (given, []) => .ok given
  | .ok (_, _ :: _) => .error .usage
  | .error stop => .error stop

def commandNames : List String := ["programs", "channels", "lineups", "validate", "help"]

def readPrograms (arguments : List String) : Except Stop Command := do
  let given ← scanCommand programsRules arguments
  let channels := given.values "channel"
  if channels.isEmpty then throw .usage
  return .programs channels ((given.value? "start").bind Instant.read?)
    ((given.value? "end").bind Instant.read?)

def readCommand : List String → Except Stop Command
  | "programs" :: arguments => readPrograms arguments
  | "channels" :: arguments => do
      let _ ← scanCommand [] arguments
      return .channels
  | "lineups" :: arguments => do
      let given ← scanCommand lineupsRules arguments
      return .lineups (given.value? "country") (given.value? "postal-code")
  | "validate" :: arguments => do
      let given ← scanCommand validateRules arguments
      return .validate (given.value? "listings").isSome
  | ["help"] => .error .help
  | ["help", name] => .error (if commandNames.contains name then .help else .usage)
  | _ => .error .usage

def Invocation.read (arguments : List String) : Except Stop Invocation := do
  let (given, rest) ← scan globalRules true [] arguments
  return ⟨given.value? "config", ← readCommand rest⟩

end ProgramGuide.CommandLine
