import ProgramGuide.Lineup.Channel
import ProgramGuide.Lineup.Descriptor
import ProgramGuide.Program.Merge
import ProgramGuide.Schedule.Window
import ProgramGuide.Service.Fetch
import ProgramGuide.Text.Percent

/-!
# The provider

The operations of the listings service that an application uses: programs and channels
of a lineup, lineups on offer, and the check of an account.
-/

namespace ProgramGuide

structure Account where
  credentials : Credentials
  listingsId : String
  deriving DecidableEq, Repr

structure Provider where
  policy : TokenPolicy
  zone : Zone
  /-- Pictures are below this address. -/
  base : String

namespace Provider

def name : String := "Schedules Direct"

def kind : String := "SchedulesDirect"

def channelSuffix : String := ".json.schedulesdirect.org"

/-- The station of a channel id: without the host of the provider, wherever and in
whatever case it stands, and without leading `I` marks. -/
def station (channel : String) : String :=
  String.ofList
    ((Text.removeIgnoringCase channelSuffix.toList channel.toList).dropWhile (· == 'I'))

def requireListingsId (account : Account) : Except Failure String :=
  let id := Text.trim account.listingsId
  if id.isEmpty then .error (.configuration .listingsIdRequired) else .ok id

def requireToken (provider : Provider) (account : Account) (refusal : Refusal) :
    Operation String := do
  match ← Tokens.acquire provider.policy account.credentials with
  | some token => return token
  | none => throw (.authentication refusal)

def lineupPath (id : String) : String := "lineups/" ++ Text.Percent.encode id

def headendsPath (country postalCode : String) : String :=
  "headends?country=" ++ Text.Percent.encode country ++ "&postalcode=" ++
    Text.Percent.encode postalCode

def checkWindow (channel : String) (start stop : Instant) : Except Failure Unit :=
  if Text.blank channel then .error (.configuration .channelIdRequired)
  else if stop.before start then .error (.configuration (.windowReversed start stop))
  else .ok ()

def programs (provider : Provider) (account : Account) (channel : String)
    (start stop : Instant) : Operation (List ProgramRecord) := do
  Operation.ofExcept (checkWindow channel start stop)
  let station := station channel
  match ← Tokens.acquire provider.policy account.credentials with
  | none => return []
  | some token =>
      let dates := (requestDates start stop provider.zone).map Date.text
      let batch ←
        Fetch.schedule provider.policy account.credentials station dates (some token)
      if batch.isEmpty then return []
      let artwork ←
        Fetch.artwork provider.policy account.credentials batch.artworkProgramIds token
      Operation.ofExcept
        (ProgramRecord.mergeAll station batch.days batch.details artwork provider.base)

def channels (provider : Provider) (account : Account) : Operation (List Channel) := do
  let id ← Operation.ofExcept (requireListingsId account)
  let token ← provider.requireToken account .tokenRequired
  let response ←
    Transport.send provider.policy true account.credentials
      ((Request.get (lineupPath id)).withToken token)
  let lineup ← Operation.ofExcept (response.decode "lineups" Lineup.ofJson?)
  return lineup.channels

def headends (provider : Provider) (account : Account) (country postalCode token : String) :
    Operation (List LineupSummary) := do
  let response ←
    Transport.send provider.policy false account.credentials
      ((Request.get (headendsPath country postalCode)).withToken token)
  let headends ←
    Operation.ofExcept
      (response.decode "headends" (Json.list? LineupDescriptor.listOfJson?))
  return headends.flatten.map LineupDescriptor.summary

/-- The lineups on offer at a place.  Only a cancellation and a failure to authenticate
are failures. -/
def lineups (provider : Provider) (account : Account) (country postalCode : String) :
    Operation (List LineupSummary) := do
  match ← Tokens.acquire provider.policy account.credentials with
  | none => return []
  | some token =>
      match ← (provider.headends account country postalCode token).outcome with
      | .ok lineups => return lineups
      | .error .cancelled => throw .cancelled
      | .error _ => return []

/-- Whether the account has its lineup.  An account without any is answered with a
rejection. -/
def hasLineup (provider : Provider) (account : Account) : Operation Bool := do
  let id ← Operation.ofExcept (requireListingsId account)
  let token ← provider.requireToken account .tokenRequired
  let request := (Request.get "lineups").withToken token
  match ← (Transport.send provider.policy false account.credentials request).outcome with
  | .ok response =>
      let lineups ←
        Operation.ofExcept (response.decode "lineups" LineupDescriptor.listOfJson?)
      return lineups.any fun d => Text.sameIgnoringCase d.lineup id
  | .error failure => if failure.isRejection then return false else throw failure

def addLineup (provider : Provider) (account : Account) : Operation Unit := do
  let token ← provider.requireToken account .authenticationRequired
  let id ← Operation.ofExcept (requireListingsId account)
  let _ ←
    Transport.send provider.policy false account.credentials
      ((Request.put (lineupPath id)).withToken token)

def checkLogin (account : Account) : Except Failure Unit :=
  if Text.blank account.credentials.username then
    .error (.configuration .usernameRequired)
  else if account.credentials.password.isEmpty then
    .error (.configuration .passwordRequired)
  else .ok ()

/-- Checks the credentials of an account, and that it has its lineup, which is attached
when it is missing. -/
def validate (provider : Provider) (account : Account) (login listings : Bool) :
    Operation Unit := do
  if login then Operation.ofExcept (checkLogin account)
  if listings then
    let _ ← Operation.ofExcept (requireListingsId account)
    if !(← provider.hasLineup account) then provider.addLineup account

end Provider

end ProgramGuide
