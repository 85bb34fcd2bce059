import ProgramGuide.Calendar.Instant
import ProgramGuide.Calendar.Span

/-!
# The token store

Tokens are kept by username and serve for a fixed lifetime.  After the service has
rejected credentials there is a cool-down in which no token is asked for.
-/

namespace ProgramGuide

structure IssuedToken where
  value : String
  issuedAt : Instant
  deriving DecidableEq, Repr

/-- How long tokens serve and a cool-down lasts, in nanoseconds. -/
structure TokenPolicy where
  lifetime : Int
  cooldown : Int
  deriving DecidableEq, Repr

def TokenPolicy.ofSpans (lifetime cooldown : Span) : TokenPolicy :=
  ⟨lifetime.window, cooldown.window⟩

structure TokenStore where
  tokens : List (String × IssuedToken)
  /-- The last rejection, in milliseconds since the epoch. -/
  lastRejection : Option Int
  deriving DecidableEq, Repr

namespace TokenStore

def empty : TokenStore := ⟨[], none⟩

def get? (store : TokenStore) (username : String) : Option IssuedToken :=
  store.tokens.lookup username

def insert (store : TokenStore) (username : String) (token : IssuedToken) : TokenStore :=
  { store with tokens := (username, token) :: store.tokens.filter (·.1 != username) }

/-- Drops every token; a cool-down goes on. -/
def clear (store : TokenStore) : TokenStore := { store with tokens := [] }

def reject (store : TokenStore) (now : Instant) : TokenStore :=
  { store with lastRejection := some now.milliseconds }

/-- Instants and the cool-down are compared in whole milliseconds. -/
def coolingDown (policy : TokenPolicy) (since : Int) (now : Instant) : Bool :=
  now.milliseconds - since < policy.cooldown / 1000000

def inCooldown (store : TokenStore) (policy : TokenPolicy) (now : Instant) : Bool :=
  store.lastRejection.any fun since => coolingDown policy since now

def isFresh (policy : TokenPolicy) (token : IssuedToken) (now : Instant) : Bool :=
  now.since token.issuedAt < policy.lifetime

section Fresh

variable {policy : TokenPolicy} {token : IssuedToken} {now : Instant}

theorem isFresh_iff :
    isFresh policy token now = true ↔ now.since token.issuedAt < policy.lifetime := by
  simp [isFresh]

theorem isFresh_eq_false_iff :
    isFresh policy token now = false ↔ policy.lifetime ≤ now.since token.issuedAt := by
  simp [isFresh]

end Fresh

end TokenStore

end ProgramGuide
