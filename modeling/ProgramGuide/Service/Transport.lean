import ProgramGuide.Service.Tokens

/-!
# Sending requests

A request that carries a token carries the one in the store if that is fresh.  A client
error may mean that the token is stale: the store is emptied and the request is sent
once more with a new token.
-/

namespace ProgramGuide.Transport

def refreshed (policy : TokenPolicy) (c : Credentials) (request : Request) :
    Operation Request := do
  if request.token.isSome then
    match ← Tokens.current policy c.username with
    | some token => return request.withToken token
    | none => return request
  else return request

def attempt (request : Request) : Operation Response := do
  let response ← Operation.exchange request
  if response.isSuccess then return response else throw response.failure

def send (policy : TokenPolicy) (retryAllowed : Bool) (c : Credentials)
    (request : Request) : Operation Response := do
  let request ← refreshed policy c request
  let response ← Operation.exchange request
  if response.isSuccess then return response
  else if !retryAllowed || 500 ≤ response.status then throw response.failure
  else
    Operation.amend TokenStore.clear
    match ← Tokens.acquire policy c with
    | some token => attempt (request.withToken token)
    | none => throw response.failure

end ProgramGuide.Transport
