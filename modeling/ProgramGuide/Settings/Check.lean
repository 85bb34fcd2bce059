import ProgramGuide.Settings.Decoding

/-!
# Settings in effect

Settings come from a file and from the environment, which overrides the account of the
file; then they are checked.
-/

namespace ProgramGuide

abbrev Environment := List (String × String)

namespace Settings

def standardPath : String := "listings-sync.toml"

def path (named : Option String) : String :=
  (named.bind Text.nonBlank?).getD standardPath

def pathIn (env : Environment) : String := path (env.lookup "LISTINGS_SYNC_CONFIG")

def override (s : Settings) (env : Environment) : Settings :=
  let account := s.account
  { s with
    account :=
      { account with
        username := (env.lookup "LISTINGS_SYNC_USERNAME").getD account.username
        password := (env.lookup "LISTINGS_SYNC_PASSWORD").getD account.password
        listingsId := (env.lookup "LISTINGS_SYNC_LISTINGS_ID").getD account.listingsId } }

def zoneName? (s : Settings) : Option String := s.sync.timezone.bind Text.nonBlank?

/-- The zone of local dates: the host's, unless another is named, with or without blanks
at the ends of its name. -/
def zone (zones : Zones) (s : Settings) : Except Misconfiguration Zone :=
  match s.zoneName? with
  | some name =>
      match zones.named? (Text.trim name) with
      | some zone => .ok zone
      | none => .error (.unknownZone name)
  | none => .ok zones.system

def check (zones : Zones) (s : Settings) : Except Misconfiguration Unit := do
  match Address.checkUrl s.service.baseUrl with
  | .ok _ => pure ()
  | .error fault => throw (.invalidBaseUrl s.service.baseUrl fault)
  if s.service.tokenLifetime.isZero then throw .zeroTokenLifetime
  let _ ← s.zone zones

def agentIsSendable (s : Settings) : Bool :=
  !s.service.userAgent.toList.any fun c =>
    (c.toNat < 0x20 && c != '\t') || c.toNat == 0x7F

inductive LoadFault where
  | setting (fault : SettingFault)
  | configuration (cause : Misconfiguration)
  deriving DecidableEq, Repr

def load (zones : Zones) (file : Option String) (env : Environment) :
    Except LoadFault Settings := do
  let read ←
    match file with
    | some text => (ofTomlText text).mapError .setting
    | none => .ok standard
  let s := read.override env
  (s.check zones).mapError .configuration
  return s

def created? (file : Option String) : Option String :=
  match file with
  | some _ => none
  | none => some standard.fileText

end Settings

end ProgramGuide
