import ProgramGuide.Address.Url
import ProgramGuide.Calendar.Timestamp
import ProgramGuide.Service.Status

/-!
# Failures

Why an operation did not succeed, and the message that says so.
-/

namespace ProgramGuide

inductive Misconfiguration where
  | channelIdRequired
  | windowReversed (start stop : Instant)
  | listingsIdRequired
  | usernameRequired
  | passwordRequired
  | invalidBaseUrl (url : String) (fault : Address.UrlFault)
  | zeroTokenLifetime
  | unknownZone (name : String)
  deriving DecidableEq, Repr

inductive Refusal where
  | rejected (username : String)
  | declined (message : Option String)
  | tokenRequired
  | authenticationRequired
  deriving DecidableEq, Repr

inductive Failure where
  | configuration (cause : Misconfiguration)
  | authentication (cause : Refusal)
  | status (code : Nat)
  | network
  | unreadable (payload : String)
  | missingDetails (programId : String)
  /-- A count left its word, which ends the program. -/
  | overflow
  | cancelled
  deriving DecidableEq, Repr

def Misconfiguration.message : Misconfiguration → String
  | .channelIdRequired => "Channel id required"
  | .windowReversed start stop =>
      "Listings window ends (" ++ stop.phrase ++ ") before it starts (" ++ start.phrase ++ ")"
  | .listingsIdRequired => "Listings id required"
  | .usernameRequired => "Username is required"
  | .passwordRequired => "Password is required"
  | .invalidBaseUrl url fault =>
      "Invalid service base_url '" ++ url ++ "': " ++ fault.message
  | .zeroTokenLifetime => "service.token_lifetime must be greater than zero"
  | .unknownZone name => "Unknown timezone '" ++ name ++ "': failed to parse timezone"

def rejectionStatus : Nat := 400

private def statusMessage (code : Nat) : String :=
  "HTTP error: " ++ Text.natural code ++ " - Request failed: " ++ Status.reason code

def Refusal.message : Refusal → String
  | .rejected username =>
      "Invalid credentials for '" ++ username ++ "': " ++ statusMessage rejectionStatus
  | .declined message =>
      "Could not authenticate with listings service: " ++ message.getD "no message"
  | .tokenRequired => "token required"
  | .authenticationRequired => "Authentication required"

namespace Failure

def message : Failure → String
  | .configuration cause => "Configuration error: " ++ cause.message
  | .authentication cause => "Authentication failed: " ++ cause.message
  | .status code => statusMessage code
  | .network => "Network error"
  | .unreadable payload => "Failed to parse " ++ payload ++ " response"
  | .missingDetails id =>
      "Service contract violated: schedule references program " ++ id ++ " without details"
  | .overflow => "arithmetic overflow in the ticks of a start"
  | .cancelled => "Operation cancelled"

def status? : Failure → Option Nat
  | .status code => some code
  | _ => none

def isRejection (f : Failure) : Bool := f.status? == some rejectionStatus

end Failure

end ProgramGuide
