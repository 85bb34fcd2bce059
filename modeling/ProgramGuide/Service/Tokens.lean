import ProgramGuide.Digest.Sha1
import ProgramGuide.Json.Decoding
import ProgramGuide.Service.Credentials
import ProgramGuide.Service.Task

/-!
# Acquiring tokens

A token is taken from the store while it is fresh.  Otherwise it is asked for under the
refresh lock, after a second look at the store, so that callers who wait do not ask
again for what another has just been given.
-/

namespace ProgramGuide

structure TokenReply where
  message : Option String
  token : Option String
  deriving DecidableEq, Repr

namespace TokenReply

open Json Fields in
def fields : Fields TokenReply :=
  TokenReply.mk <$> nullable "message" string? <*> nullable "token" string?

def ofJson? : Json → Option TokenReply := fields.decode?

/-- The token of a reply that grants one: its message is `OK` and its token not empty. -/
def granted (reply : TokenReply) : Except Failure String :=
  match reply.message, reply.token with
  | some "OK", some token =>
      if token.isEmpty then .error (.authentication (.declined (some "OK"))) else .ok token
  | message, _ => .error (.authentication (.declined message))

end TokenReply

namespace Tokens

def request (c : Credentials) : Request :=
  .post "token"
    (.object
      [("username", .string c.username), ("password", .string (Sha1.ofText c.password))])

/-- The fresh token for a username.  The clock is read only if there is a token. -/
def current (policy : TokenPolicy) (username : String) : Operation (Option String) := do
  match (← Operation.store).get? username with
  | none => return none
  | some token =>
      let now ← Operation.now
      return if TokenStore.isFresh policy token now then some token.value else none

def inCooldown (policy : TokenPolicy) : Operation Bool := do
  match (← Operation.store).lastRejection with
  | none => return false
  | some since =>
      let now ← Operation.now
      return TokenStore.coolingDown policy since now

def authenticate (c : Credentials) : Operation String := do
  let response ← Operation.exchange (request c)
  if response.isSuccess then
    let reply ← Operation.ofExcept (response.decode "token" TokenReply.ofJson?)
    Operation.ofExcept reply.granted
  else throw response.failure

/-- Asks for a token and stores it.  A rejection empties the store and starts the
cool-down; any other failure leaves the store alone. -/
def refresh (c : Credentials) : Operation String := do
  match ← (authenticate c).outcome with
  | .ok token =>
      let now ← Operation.now
      Operation.amend (·.insert c.username ⟨token, now⟩)
      return token
  | .error failure =>
      if failure.isRejection then
        Operation.amend TokenStore.clear
        let now ← Operation.now
        Operation.amend (·.reject now)
        throw (.authentication (.rejected c.username))
      else throw failure

/-- What the store holds for the caller: a fresh token, or none during a cool-down, or
(as the outer `none`) nothing that settles the matter. -/
def look (policy : TokenPolicy) (c : Credentials) : Operation (Option (Option String)) := do
  match ← current policy c.username with
  | some token => return some (some token)
  | none => return if ← inCooldown policy then some none else none

def acquire (policy : TokenPolicy) (c : Credentials) : Operation (Option String) := do
  if !c.isComplete then return none
  match ← look policy c with
  | some settled => return settled
  | none =>
      Operation.locked do
        match ← look policy c with
        | some settled => return settled
        | none => return some (← refresh c)

end Tokens

end ProgramGuide
