import Mathlib.Data.List.Forall2
import ProgramGuide.Proofs.Service.Call
import ProgramGuide.Proofs.Service.Play

/-!
# Passwords on the wire

Two sequences of calls that differ in nothing but the passwords do the same in the same
order.  All that can tell them apart is the digest in their requests for a token.
-/

namespace ProgramGuide

/-- Tasks that take the same steps, each with requests of its own. -/
inductive Task.Alike (same : Request → Request → Prop) : Task α → Task α → Prop
  | done (a) : Alike same (.done a) (.done a)
  | clock {next next'} (h : ∀ now, Alike same (next now) (next' now)) :
      Alike same (.clock next) (.clock next')
  | inspect {next next'} (h : ∀ store, Alike same (next store) (next' store)) :
      Alike same (.inspect next) (.inspect next')
  | amend (change) {next next'} (h : Alike same next next') :
      Alike same (.amend change next) (.amend change next')
  | lock {next next'} (h : ∀ held, Alike same (next held) (next' held)) :
      Alike same (.lock next) (.lock next')
  | unlock {next next'} (h : Alike same next next') :
      Alike same (.unlock next) (.unlock next')
  | exchange {request request' next next'} (hrequest : same request request')
      (h : ∀ result, Alike same (next result) (next' result)) :
      Alike same (.exchange request next) (.exchange request' next')

/-- Events that differ in no more than the request that is exchanged. -/
inductive Event.Alike (same : Request → Request → Prop) : Event → Event → Prop
  | read (now) : Alike same (.read now) (.read now)
  | wait (held) : Alike same (.wait held) (.wait held)
  | exchange {request request'} (hrequest : same request request') (sent result) :
      Alike same (.exchange request sent result) (.exchange request' sent result)

namespace Task

variable {same : Request → Request → Prop}

theorem Alike.refl (hrefl : ∀ request, same request request) (t : Task α) :
    t.Alike same t := by
  induction t with
  | done a => exact .done a
  | clock _ ih => exact .clock ih
  | inspect _ ih => exact .inspect ih
  | amend change _ ih => exact .amend change ih
  | lock _ ih => exact .lock ih
  | unlock _ ih => exact .unlock ih
  | exchange request _ ih => exact .exchange (hrefl request) ih

theorem Alike.bind {t t' : Task α} {f f' : α → Task β} (h : t.Alike same t')
    (hf : ∀ a, (f a).Alike same (f' a)) : (t.bind f).Alike same (t'.bind f') := by
  induction h with
  | done a => exact hf a
  | clock _ ih => exact .clock ih
  | inspect _ ih => exact .inspect ih
  | amend change _ ih => exact .amend change ih
  | lock _ ih => exact .lock ih
  | unlock _ ih => exact .unlock ih
  | exchange hrequest _ ih => exact .exchange hrequest ih

/-- What comes of a play, in a sequence of events that has its counterpart in another. -/
structure Alike.Outcome (same : Request → Request → Prop) (p p' : Played α) : Prop where
  result : p.result = p'.result
  store : p.store = p'.store
  events : List.Forall₂ (Event.Alike same) p.events p'.events

theorem Alike.Outcome.prepend {p p' : Played α} {event event' : Event}
    (h : Alike.Outcome same p p') (hevent : event.Alike same event') :
    Alike.Outcome same (p.prepend event) (p'.prepend event') :=
  ⟨h.result, h.store, .cons hevent h.events⟩

theorem Alike.play {t t' : Task α} (h : t.Alike same t') (store : TokenStore)
    (o : Outside) : Alike.Outcome same (t.play store o) (t'.play store o) := by
  induction h generalizing store o with
  | done a => exact ⟨rfl, rfl, .nil⟩
  | clock _ ih => exact (ih _ store _).prepend (.read _)
  | inspect _ ih => exact ih store store o
  | amend change _ ih => exact ih (change store) o
  | lock _ ih => exact (ih _ store _).prepend (.wait _)
  | unlock _ ih => exact ih store o
  | exchange hrequest _ ih =>
      simp only [Task.play]
      split
      · exact (ih _ store _).prepend (.exchange hrequest _ _)
      · exact (ih _ store _).prepend (.exchange hrequest _ _)

end Task

namespace Operation

variable {same : Request → Request → Prop}

def Alike (same : Request → Request → Prop) (op op' : Operation α) : Prop :=
  op.run.Alike same op'.run

theorem Alike.bind {op op' : Operation α} {f f' : α → Operation β} (h : op.Alike same op')
    (hf : ∀ a, (f a).Alike same (f' a)) : (op >>= f).Alike same (op' >>= f') := by
  refine Task.Alike.bind h fun result => ?_
  cases result with
  | ok a => exact hf a
  | error failure => exact .done _

theorem Alike.outcome {op op' : Operation α} (h : op.Alike same op') :
    op.outcome.Alike same op'.outcome :=
  Task.Alike.bind h fun _ => .done _

theorem Alike.locked {op op' : Operation α} (h : op.Alike same op') :
    op.locked.Alike same op'.locked := by
  refine .lock fun held => ?_
  cases held with
  | true => exact Task.Alike.bind h fun _ => .unlock (.done _)
  | false => exact .done _

theorem alike_exchange {request request' : Request} (h : same request request') :
    (exchange request).Alike same (exchange request') :=
  .exchange h fun _ => .done _

end Operation

/-! ## Operations of one user with either password -/

/-- The request for a token by the digest of a password. -/
def tokenRequest (username digest : String) : Request :=
  .post "token" (.object [("username", .string username), ("password", .string digest)])

/-- Requests that are the same, or that ask for a token of the same user, each with the
digest of its own password. -/
def Veiled (password password' : String) (request request' : Request) : Prop :=
  request = request' ∨
    ∃ username, request = tokenRequest username (Sha1.ofText password) ∧
      request' = tokenRequest username (Sha1.ofText password')

structure Credentials.Twin (c c' : Credentials) : Prop where
  username : c.username = c'.username
  password : c.password.isEmpty = c'.password.isEmpty

structure Account.Twin (a a' : Account) : Prop where
  credentials : a.credentials.Twin a'.credentials
  listingsId : a.listingsId = a'.listingsId

section Credentials

open Operation

variable {policy : TokenPolicy} {c c' : Credentials} (h : c.Twin c')

theorem Credentials.Twin.isComplete (h : c.Twin c') : c.isComplete = c'.isComplete := by
  unfold Credentials.isComplete
  rw [h.username, h.password]

theorem alike_rfl {password password' : String} (op : Operation α) :
    op.Alike (Veiled password password') op :=
  Task.Alike.refl (fun _ => .inl rfl) op.run

theorem alike_of_eq {password password' : String} {op op' : Operation α} (h : op = op') :
    op.Alike (Veiled password password') op' :=
  h ▸ alike_rfl op

include h

theorem alike_authenticate :
    (Tokens.authenticate c).Alike (Veiled c.password c'.password)
      (Tokens.authenticate c') := by
  have hrequest : Veiled c.password c'.password (Tokens.request c) (Tokens.request c') :=
    .inr ⟨c.username, rfl, by rw [h.username]; rfl⟩
  exact (alike_exchange hrequest).bind fun response => alike_rfl _

theorem alike_refresh :
    (Tokens.refresh c).Alike (Veiled c.password c'.password) (Tokens.refresh c') := by
  refine (alike_authenticate h).outcome.bind fun result => alike_of_eq ?_
  rw [h.username]

theorem look_eq_of_twin : Tokens.look policy c = Tokens.look policy c' := by
  unfold Tokens.look
  rw [h.username]

theorem alike_acquire :
    (Tokens.acquire policy c).Alike (Veiled c.password c'.password)
      (Tokens.acquire policy c') := by
  unfold Tokens.acquire
  rw [h.isComplete, look_eq_of_twin h]
  split
  · exact alike_rfl _
  · refine (alike_rfl _).bind fun settled => ?_
    cases settled with
    | some settled => exact alike_rfl _
    | none =>
        refine Alike.locked ((alike_rfl _).bind fun settled => ?_)
        cases settled with
        | some settled => exact alike_rfl _
        | none => exact (alike_refresh h).bind fun token => alike_rfl _

theorem alike_send (retryAllowed : Bool) (request : Request) :
    (Transport.send policy retryAllowed c request).Alike (Veiled c.password c'.password)
      (Transport.send policy retryAllowed c' request) := by
  have hrefreshed : Transport.refreshed policy c request =
      Transport.refreshed policy c' request := by
    unfold Transport.refreshed
    rw [h.username]
  unfold Transport.send
  rw [hrefreshed]
  refine (alike_rfl _).bind fun sent => (alike_rfl _).bind fun response => ?_
  split
  · exact alike_rfl _
  · split
    · exact alike_rfl _
    · refine (alike_rfl _).bind fun _ => (alike_acquire h).bind fun token => ?_
      exact alike_rfl _

end Credentials

section Accounts

open Operation

variable {provider : Provider} {account account' : Account} (h : account.Twin account')

include h

theorem requireListingsId_eq_of_twin :
    Provider.requireListingsId account = Provider.requireListingsId account' := by
  unfold Provider.requireListingsId
  rw [h.listingsId]

theorem checkLogin_eq_of_twin : Provider.checkLogin account = Provider.checkLogin account' := by
  unfold Provider.checkLogin
  rw [h.credentials.username, h.credentials.password]

theorem alike_requireToken (refusal : Refusal) :
    (provider.requireToken account refusal).Alike
      (Veiled account.credentials.password account'.credentials.password)
      (provider.requireToken account' refusal) :=
  (alike_acquire h.credentials).bind fun _ => alike_rfl _

theorem alike_schedule (station : String) (dates : List String) (token : Option String) :
    (Fetch.schedule provider.policy account.credentials station dates token).Alike
      (Veiled account.credentials.password account'.credentials.password)
      (Fetch.schedule provider.policy account'.credentials station dates token) := by
  unfold Fetch.schedule
  split
  · exact alike_rfl _
  · dsimp only
    split
    · exact alike_rfl _
    · refine (alike_send h.credentials _ _).bind fun response => ?_
      refine (alike_rfl _).bind fun days => ?_
      split
      · exact alike_rfl _
      · exact (alike_send h.credentials _ _).bind fun response => alike_rfl _

theorem alike_artwork (ids : List String) (token : String) :
    (Fetch.artwork provider.policy account.credentials ids token).Alike
      (Veiled account.credentials.password account'.credentials.password)
      (Fetch.artwork provider.policy account'.credentials ids token) := by
  unfold Fetch.artwork
  dsimp only
  split
  · exact alike_rfl _
  · refine Alike.bind (Alike.outcome ?_) fun _ => alike_rfl _
    exact (alike_send h.credentials _ _).bind fun response => alike_rfl _

theorem alike_programs (channel : String) (start stop : Instant) :
    (provider.programs account channel start stop).Alike
      (Veiled account.credentials.password account'.credentials.password)
      (provider.programs account' channel start stop) := by
  unfold Provider.programs
  refine (alike_rfl _).bind fun _ => (alike_acquire h.credentials).bind fun token => ?_
  cases token with
  | none => exact alike_rfl _
  | some token =>
      refine (alike_schedule h _ _ _).bind fun batch => ?_
      split
      · exact alike_rfl _
      · exact (alike_artwork h _ _).bind fun artwork => alike_rfl _

theorem alike_channels :
    (provider.channels account).Alike
      (Veiled account.credentials.password account'.credentials.password)
      (provider.channels account') := by
  unfold Provider.channels
  rw [requireListingsId_eq_of_twin h]
  refine (alike_rfl _).bind fun id => (alike_requireToken h _).bind fun token => ?_
  exact (alike_send h.credentials _ _).bind fun response => alike_rfl _

theorem alike_lineups (country postalCode : String) :
    (provider.lineups account country postalCode).Alike
      (Veiled account.credentials.password account'.credentials.password)
      (provider.lineups account' country postalCode) := by
  unfold Provider.lineups
  refine (alike_acquire h.credentials).bind fun token => ?_
  cases token with
  | none => exact alike_rfl _
  | some token =>
      refine Alike.bind (Alike.outcome ?_) fun _ => alike_rfl _
      exact (alike_send h.credentials _ _).bind fun response => alike_rfl _

theorem alike_hasLineup :
    (provider.hasLineup account).Alike
      (Veiled account.credentials.password account'.credentials.password)
      (provider.hasLineup account') := by
  unfold Provider.hasLineup
  rw [requireListingsId_eq_of_twin h]
  refine (alike_rfl _).bind fun id => (alike_requireToken h _).bind fun token => ?_
  exact (alike_send h.credentials _ _).outcome.bind fun result => alike_rfl _

theorem alike_addLineup :
    (provider.addLineup account).Alike
      (Veiled account.credentials.password account'.credentials.password)
      (provider.addLineup account') := by
  unfold Provider.addLineup
  rw [requireListingsId_eq_of_twin h]
  refine (alike_requireToken h _).bind fun token => (alike_rfl _).bind fun id => ?_
  exact (alike_send h.credentials _ _).bind fun response => alike_rfl _

theorem alike_validate (login listings : Bool) :
    (provider.validate account login listings).Alike
      (Veiled account.credentials.password account'.credentials.password)
      (provider.validate account' login listings) := by
  unfold Provider.validate
  rw [checkLogin_eq_of_twin h, requireListingsId_eq_of_twin h]
  dsimp only
  have hlistings : (if listings = true then do
        let _ ← Operation.ofExcept (Provider.requireListingsId account')
        if !(← provider.hasLineup account) then provider.addLineup account
      else pure () : Operation Unit).Alike
        (Veiled account.credentials.password account'.credentials.password)
        (if listings = true then do
          let _ ← Operation.ofExcept (Provider.requireListingsId account')
          if !(← provider.hasLineup account') then provider.addLineup account'
        else pure ()) := by
    split
    · refine (alike_rfl _).bind fun id => (alike_hasLineup h).bind fun attached => ?_
      split
      · exact alike_addLineup h
      · exact alike_rfl _
    · exact alike_rfl _
  split
  · exact (alike_rfl _).bind fun _ => hlistings
  · exact hlistings

end Accounts

/-! ## Sequences of calls -/

/-- The same errand for accounts that differ in no more than the password. -/
inductive Errand.Twin : Errand → Errand → Prop
  | programs {account account'} (h : account.Twin account') (channel start stop) :
      Twin (.programs account channel start stop) (.programs account' channel start stop)
  | channels {account account'} (h : account.Twin account') :
      Twin (.channels account) (.channels account')
  | lineups {account account'} (h : account.Twin account') (country postalCode) :
      Twin (.lineups account country postalCode) (.lineups account' country postalCode)
  | hasLineup {account account'} (h : account.Twin account') :
      Twin (.hasLineup account) (.hasLineup account')
  | addLineup {account account'} (h : account.Twin account') :
      Twin (.addLineup account) (.addLineup account')
  | validate {account account'} (h : account.Twin account') (login listings) :
      Twin (.validate account login listings) (.validate account' login listings)

theorem Errand.Twin.alike {provider : Provider} {errand errand' : Errand}
    (h : errand.Twin errand') :
    (errand.operation provider).Alike
      (Veiled errand.credentials.password errand'.credentials.password)
      (errand'.operation provider) := by
  cases h with
  | programs h => exact (alike_programs h _ _ _).bind fun _ => alike_rfl _
  | channels h => exact (alike_channels h).bind fun _ => alike_rfl _
  | lineups h => exact (alike_lineups h _ _).bind fun _ => alike_rfl _
  | hasLineup h => exact (alike_hasLineup h).bind fun _ => alike_rfl _
  | addLineup h => exact (alike_addLineup h).bind fun _ => alike_rfl _
  | validate h => exact (alike_validate h _ _).bind fun _ => alike_rfl _

namespace Call

def password : Call → String
  | acquire c => c.password
  | clear => ""
  | send _ c _ => c.password
  | errand e => e.credentials.password

/-- The same call for credentials that differ in no more than the password. -/
inductive Twin : Call → Call → Prop
  | acquire {c c'} (h : c.Twin c') : Twin (.acquire c) (.acquire c')
  | clear : Twin .clear .clear
  | send (retryAllowed) {c c'} (h : c.Twin c') (request) :
      Twin (.send retryAllowed c request) (.send retryAllowed c' request)
  | errand {e e'} (h : e.Twin e') : Twin (.errand e) (.errand e')

theorem Twin.alike {provider : Provider} {call call' : Call} (h : call.Twin call') :
    (call.operation provider).Alike (Veiled call.password call'.password)
      (call'.operation provider) := by
  cases h with
  | acquire h => exact (alike_acquire h).bind fun _ => alike_rfl _
  | clear => exact alike_rfl _
  | send retryAllowed h request =>
      exact (alike_send h retryAllowed request).bind fun _ => alike_rfl _
  | errand h => exact h.alike

/-- Calls with what happens on each, made in sequence on one store. -/
def sequence (provider : Provider) : List Call → TokenStore → Outside →
    List (Call × Played (Except Failure Answer))
  | [], _, _ => []
  | call :: calls, store, o =>
      let played := (call.operation provider).play store o
      (call, played) :: sequence provider calls played.store (o.after played.events.length)

end Call

theorem eq_of_veiled {password password' : String} {events events' : List Event}
    (hdigest : Sha1.ofText password = Sha1.ofText password')
    (h : List.Forall₂ (Event.Alike (Veiled password password')) events events') :
    events = events' := by
  induction h with
  | nil => rfl
  | cons hevent _ ih =>
      rw [ih]
      cases hevent with
      | read => rfl
      | wait => rfl
      | exchange hrequest sent result =>
          obtain rfl | ⟨username, rfl, rfl⟩ := hrequest
          · rfl
          · rw [hdigest]

/-- Calls that differ in nothing but the passwords, made in sequence against the same
outside, come to the same results and leave the same stores.  Their events are the same
but for the digests in the requests for a token, and so the same if the digests are. -/
theorem sequence_of_twins {provider : Provider} {calls calls' : List Call}
    (htwins : List.Forall₂ Call.Twin calls calls') (store : TokenStore) (o : Outside) :
    List.Forall₂
      (fun done done' : Call × Played (Except Failure Answer) =>
        done.2.result = done'.2.result ∧ done.2.store = done'.2.store ∧
        List.Forall₂ (Event.Alike (Veiled done.1.password done'.1.password))
          done.2.events done'.2.events ∧
        (Sha1.ofText done.1.password = Sha1.ofText done'.1.password →
          done.2.events = done'.2.events))
      (Call.sequence provider calls store o) (Call.sequence provider calls' store o) := by
  induction htwins generalizing store o with
  | nil => exact .nil
  | @cons call call' calls calls' h _ ih =>
      have halike : (call.operation provider).Alike (Veiled call.password call'.password)
          (call'.operation provider) := h.alike
      have hplay : Task.Alike.Outcome (Veiled call.password call'.password)
          ((call.operation provider).play store o) ((call'.operation provider).play store o) :=
        Task.Alike.play halike store o
      refine .cons ⟨hplay.result, hplay.store, hplay.events, ?_⟩ ?_
      · exact fun hdigest => eq_of_veiled hdigest hplay.events
      · rw [hplay.store, hplay.events.length_eq]
        exact ih _ _

def visit (password : String) : List Call :=
  [.acquire ⟨"viewer", password⟩,
   .send true ⟨"viewer", password⟩ ((Request.get "lineups").withToken "stale"),
   .errand (.validate ⟨⟨"viewer", password⟩, "USA-1"⟩ true false)]

def granting : Outside := fun n =>
  let body := "\x7b\"message\":\"OK\",\"token\":\"tok\"\x7d"
  ⟨⟨0, 0⟩, false, .ok ⟨if n = 4 then 403 else 200, body⟩⟩

theorem sequence_of_twins_visit :
    let provider : Provider := ⟨⟨1000000000, 1000000000⟩, .fixed 0, ""⟩
    List.Forall₂ Call.Twin (visit "secret") (visit "hidden") ∧
      List.Forall₂
        (fun done done' : Call × Played (Except Failure Answer) =>
          done.2.result = done'.2.result ∧ done.2.store = done'.2.store ∧
          List.Forall₂ (Event.Alike (Veiled done.1.password done'.1.password))
            done.2.events done'.2.events ∧
          (Sha1.ofText done.1.password = Sha1.ofText done'.1.password →
            done.2.events = done'.2.events))
        (Call.sequence provider (visit "secret") .empty granting)
        (Call.sequence provider (visit "hidden") .empty granting) ∧
      (Call.sequence provider (visit "secret") .empty granting).map (·.2.events.length) =
        [3, 6, 0] := by
  intro provider
  have htwin : Credentials.Twin ⟨"viewer", "secret"⟩ ⟨"viewer", "hidden"⟩ :=
    ⟨rfl, by decide⟩
  have haccount : Account.Twin ⟨⟨"viewer", "secret"⟩, "USA-1"⟩
      ⟨⟨"viewer", "hidden"⟩, "USA-1"⟩ := ⟨htwin, rfl⟩
  have htwins : List.Forall₂ Call.Twin (visit "secret") (visit "hidden") :=
    .cons (.acquire htwin) (.cons (.send true htwin _)
      (.cons (.errand (.validate haccount true false)) .nil))
  exact ⟨htwins, sequence_of_twins htwins .empty granting, by decide +kernel⟩

end ProgramGuide
