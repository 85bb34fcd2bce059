import ProgramGuide.Calendar.Span
import ProgramGuide.Json.Value
import ProgramGuide.Service.Provider
import ProgramGuide.Toml.Quote

/-!
# Settings

How the service is reached, the account and its lineup, and the zone of local dates.
Empty texts in the account stand for absence.
-/

namespace ProgramGuide

structure ServiceSettings where
  baseUrl : String
  requestTimeout : Span
  connectTimeout : Span
  userAgent : String
  tokenLifetime : Span
  authCooldown : Span
  deriving DecidableEq, Repr

structure AccountSettings where
  username : String
  password : String
  listingsId : String
  country : String
  postalCode : String
  deriving DecidableEq, Repr

structure SyncSettings where
  timezone : Option String
  deriving DecidableEq, Repr

structure Settings where
  service : ServiceSettings
  account : AccountSettings
  sync : SyncSettings
  deriving DecidableEq, Repr

namespace Settings

def programName : String := "listings-sync"

def version : String := "0.1.0"

def standardBaseUrl : String := "https://json.schedulesdirect.org/20141201"

def standardService : ServiceSettings where
  baseUrl := standardBaseUrl
  requestTimeout := .ofSeconds 60
  connectTimeout := .ofSeconds 10
  userAgent := programName ++ "/" ++ version
  tokenLifetime := .ofSeconds (20 * 3600)
  authCooldown := .ofSeconds 60

def noAccount : AccountSettings := ⟨"", "", "", "", ""⟩

def standard : Settings := ⟨standardService, noAccount, ⟨none⟩⟩

def tokenPolicy (s : Settings) : TokenPolicy :=
  .ofSpans s.service.tokenLifetime s.service.authCooldown

def providerAccount (s : Settings) : Account :=
  ⟨⟨s.account.username, s.account.password⟩, s.account.listingsId⟩

end Settings

/-! ## Sections as texts by key -/

def ServiceSettings.entries (s : ServiceSettings) : List (String × String) :=
  [("base_url", s.baseUrl), ("request_timeout", s.requestTimeout.text),
   ("connect_timeout", s.connectTimeout.text), ("user_agent", s.userAgent),
   ("token_lifetime", s.tokenLifetime.text), ("auth_cooldown", s.authCooldown.text)]

def AccountSettings.entries (s : AccountSettings) : List (String × String) :=
  [("username", s.username), ("password", s.password), ("listings_id", s.listingsId),
   ("country", s.country), ("postal_code", s.postalCode)]

def SyncSettings.entries (s : SyncSettings) : List (String × String) :=
  match s.timezone with
  | some name => [("timezone", name)]
  | none => []

namespace Settings

def entries (s : Settings) : List (String × List (String × String)) :=
  [("service", s.service.entries), ("account", s.account.entries),
   ("sync", s.sync.entries)]

def toJson (s : Settings) : Json :=
  .object (s.entries.map fun (name, entries) =>
    (name, .object (entries.map fun (key, text) => (key, .string text))))

def sectionText (name : String) (entries : List (String × String)) : List Char :=
  '[' :: name.toList ++ [']', '\n'] ++
    entries.flatMap fun (key, text) =>
      key.toList ++ [' ', '=', ' '] ++ Toml.quote text ++ ['\n']

def fileText (s : Settings) : String :=
  String.ofList
    (List.intercalate ['\n'] (s.entries.map fun (name, entries) => sectionText name entries))

end Settings

end ProgramGuide
