import ProgramGuide.Proofs.Service.Contract
import ProgramGuide.Service.Provider

/-!
# Calls

Everything an application can do with one token store: the operations of the provider,
and those of the store and the transport below it.
-/

namespace ProgramGuide

/-- An operation of the provider, for an account. -/
inductive Errand where
  | programs (account : Account) (channel : String) (start stop : Instant)
  | channels (account : Account)
  | lineups (account : Account) (country postalCode : String)
  | hasLineup (account : Account)
  | addLineup (account : Account)
  | validate (account : Account) (login listings : Bool)
  deriving DecidableEq, Repr

inductive Answer where
  | token (token : Option String)
  | response (response : Response)
  | programs (records : List ProgramRecord)
  | channels (channels : List Channel)
  | lineups (lineups : List LineupSummary)
  | verdict (holds : Bool)
  | done
  deriving DecidableEq, Repr

namespace Errand

def account : Errand → Account
  | programs account _ _ _ => account
  | channels account => account
  | lineups account _ _ => account
  | hasLineup account => account
  | addLineup account => account
  | validate account _ _ => account

def credentials (e : Errand) : Credentials := e.account.credentials

def username (e : Errand) : String := e.credentials.username

def operation (provider : Provider) : Errand → Operation Answer
  | programs account channel start stop => do
      return .programs (← provider.programs account channel start stop)
  | channels account => do return .channels (← provider.channels account)
  | lineups account country postalCode => do
      return .lineups (← provider.lineups account country postalCode)
  | hasLineup account => do return .verdict (← provider.hasLineup account)
  | addLineup account => do
      provider.addLineup account
      return .done
  | validate account login listings => do
      provider.validate account login listings
      return .done

end Errand

inductive Call where
  | acquire (c : Credentials)
  | clear
  | send (retryAllowed : Bool) (c : Credentials) (request : Request)
  | errand (errand : Errand)
  deriving DecidableEq, Repr

namespace Call

def operation (provider : Provider) : Call → Operation Answer
  | acquire c => do return .token (← Tokens.acquire provider.policy c)
  | clear => do
      Operation.amend TokenStore.clear
      return .done
  | send retryAllowed c request => do
      return .response (← Transport.send provider.policy retryAllowed c request)
  | errand e => e.operation provider

/-- Whether a request is that of the caller, whatever token it carries. -/
def own : Call → Request → Prop
  | send _ _ request, sent => ∃ token, sent = { request with token }
  | _, _ => False

end Call

/-! ## Operations built of token acquisition and sending -/

@[simp] theorem scheduleRequest_path (station : String) (dates : List String)
    (token : String) : (Fetch.scheduleRequest station dates token).path = "schedules" :=
  rfl

@[simp] theorem idsRequest_path (path : String) (ids : List String) (token : String) :
    (Fetch.idsRequest path ids token).path = path :=
  rfl

@[simp] theorem withToken_path (request : Request) (token : String) :
    (request.withToken token).path = request.path :=
  rfl

@[simp] theorem get_path (path : String) : (Request.get path).path = path := rfl

@[simp] theorem put_path (path : String) : (Request.put path).path = path := rfl

@[simp] theorem lineupPath_ne_token (id : String) : Provider.lineupPath id ≠ "token" := by
  unfold Provider.lineupPath
  generalize Text.Percent.encode id = encoded
  intro h
  have hfirst := congrArg (fun path : String => path.toList.head?) h
  simp at hfirst

@[simp] theorem headendsPath_ne_token (country postalCode : String) :
    Provider.headendsPath country postalCode ≠ "token" := by
  unfold Provider.headendsPath
  generalize Text.Percent.encode country = country
  generalize Text.Percent.encode postalCode = postalCode
  intro h
  have hfirst := congrArg (fun path : String => path.toList.head?) h
  simp at hfirst

namespace Operation

/-- How an operation is built, with the token it has acquired before and the one it still
has after it.  Every request but the one for a token carries the token. -/
inductive Built (policy : TokenPolicy) (c : Credentials) : {α : Type} →
    Option String → Option String → Operation α → Prop
  | pure {α : Type} {token} (a : α) : Built policy c token token (pure a)
  | throw {α : Type} {token} (failure : Failure) :
      Built policy c token token (throw failure : Operation α)
  | ofExcept {α : Type} {token} (result : Except Failure α) :
      Built policy c token token (Operation.ofExcept result)
  | send {token} (retryAllowed : Bool) (request : Request) (hpath : request.path ≠ "token")
      (htoken : request.token = some token) :
      Built policy c (some token) (some token)
        (Transport.send policy retryAllowed c request)
  | acquire {β : Type} {f : Option String → Operation β}
      (hsome : ∀ token, Built policy c (some token) none (f (some token)))
      (hnone : Built policy c none none (f none)) :
      Built policy c none none (Tokens.acquire policy c >>= f)
  | bind {α β : Type} {before between after} {op : Operation α} {f : α → Operation β}
      (h : Built policy c before between op) (hf : ∀ a, Built policy c between after (f a)) :
      Built policy c before after (op >>= f)
  | outcome {α : Type} {before after} {op : Operation α}
      (h : Built policy c before after op) : Built policy c before none op.outcome
  | final {α : Type} {before after} {op : Operation α}
      (h : Built policy c before after op) : Built policy c before none op

theorem Built.keeps {policy : TokenPolicy} {c : Credentials} {before after : Option String}
    {op : Operation α} {K : Contract} (hacquire : (Tokens.acquire policy c).Keeps K)
    (hsend : ∀ retryAllowed request, request.path ≠ "token" →
      (Transport.send policy retryAllowed c request).Keeps K)
    (h : op.Built policy c before after) : op.Keeps K := by
  induction h with
  | pure a => exact keeps_pure a
  | throw failure => exact keeps_throw failure
  | ofExcept result => exact keeps_ofExcept result
  | send retryAllowed request hpath => exact hsend retryAllowed request hpath
  | acquire _ _ hsome hnone =>
      refine hacquire.bind fun token => ?_
      cases token with
      | none => exact hnone
      | some token => exact hsome token
  | bind _ _ h hf => exact h.bind hf
  | outcome _ h => exact h.outcome
  | final _ h => exact h

end Operation

section Built

open Operation

variable {provider : Provider} {account : Account} {token : String}

private theorem built_schedule {station : String} {dates : List String} :
    (Fetch.schedule provider.policy account.credentials station dates (some token)).Built
      provider.policy account.credentials (some token) (some token) := by
  unfold Fetch.schedule
  dsimp only
  split
  · exact .pure _
  · refine .bind (.send _ _ (by simp) rfl) fun response => ?_
    refine .bind (.ofExcept _) fun days => ?_
    split
    · exact .pure _
    · refine .bind (.send _ _ (by simp) rfl) fun response => ?_
      exact .bind (.ofExcept _) fun details => .pure _

private theorem built_artwork {ids : List String} :
    (Fetch.artwork provider.policy account.credentials ids token).Built provider.policy
      account.credentials (some token) none := by
  unfold Fetch.artwork
  dsimp only
  split
  · exact .final (.pure _)
  · have hindex : (Fetch.artworkOf provider.policy account.credentials
        (Fetch.artworkRoots ids) token).Built provider.policy account.credentials
        (some token) (some token) := by
      refine .bind (.send _ _ (by simp) rfl) fun response => ?_
      exact .bind (.ofExcept _) fun shows => .pure _
    refine .bind hindex.outcome fun result => ?_
    split
    · exact .pure _
    · exact .throw _
    · exact .pure _

private theorem built_programs {channel : String} {start stop : Instant} :
    (provider.programs account channel start stop).Built provider.policy
      account.credentials none none := by
  unfold Provider.programs
  refine .bind (.ofExcept _) fun _ => .acquire (fun token => ?_) (.pure _)
  refine .bind built_schedule fun batch => ?_
  split
  · exact .final (.pure _)
  · exact .bind built_artwork fun artwork => .ofExcept _

private theorem built_requireToken_bind {refusal : Refusal} {f : String → Operation β}
    (hf : ∀ token, (f token).Built provider.policy account.credentials (some token) none) :
    (provider.requireToken account refusal >>= f).Built provider.policy
      account.credentials none none := by
  unfold Provider.requireToken
  rw [bind_assoc]
  refine .acquire (fun token => ?_) ?_
  · dsimp only
    rw [pure_bind]
    exact hf token
  · have hthrow : (throw (.authentication refusal) : Operation β).Built provider.policy
        account.credentials none none := .throw _
    exact hthrow

private theorem built_channels :
    (provider.channels account).Built provider.policy account.credentials none none := by
  unfold Provider.channels
  refine .bind (.ofExcept _) fun id => built_requireToken_bind fun token => ?_
  refine .bind (.final (.send _ _ (by simp) rfl)) fun response => ?_
  exact .bind (.ofExcept _) fun lineup => .pure _

private theorem built_lineups {country postalCode : String} :
    (provider.lineups account country postalCode).Built provider.policy
      account.credentials none none := by
  unfold Provider.lineups
  refine .acquire (fun token => ?_) (.pure _)
  have hlineups : (provider.headends account country postalCode token).Built
      provider.policy account.credentials (some token) none := by
    refine .bind (.final (.send _ _ (by simp) rfl)) fun response => ?_
    exact .bind (.ofExcept _) fun headends => .pure _
  refine .bind hlineups.outcome fun result => ?_
  split
  · exact .pure _
  · exact .throw _
  · exact .pure _

private theorem built_hasLineup :
    (provider.hasLineup account).Built provider.policy account.credentials none none := by
  unfold Provider.hasLineup
  refine .bind (.ofExcept _) fun id => built_requireToken_bind fun token => ?_
  refine .bind (.outcome (.send _ _ (by simp) rfl)) fun result => ?_
  split
  · exact .bind (.ofExcept _) fun lineups => .pure _
  · split
    · exact .pure _
    · exact .throw _

private theorem built_addLineup :
    (provider.addLineup account).Built provider.policy account.credentials none none := by
  unfold Provider.addLineup
  refine built_requireToken_bind fun token => ?_
  refine .bind (.ofExcept _) fun id => ?_
  exact .bind (.final (.send _ _ (by simp) rfl)) fun response => .pure _

private theorem built_validate {login listings : Bool} :
    (provider.validate account login listings).Built provider.policy account.credentials
      none none := by
  unfold Provider.validate
  dsimp only
  have hlistings : (if listings = true then do
        let _ ← Operation.ofExcept (Provider.requireListingsId account)
        if !(← provider.hasLineup account) then provider.addLineup account
      else pure () : Operation Unit).Built provider.policy account.credentials none none := by
    split
    · refine .bind (.ofExcept _) fun id => .bind built_hasLineup fun attached => ?_
      split
      · exact built_addLineup
      · exact .pure _
    · exact .pure _
  split
  · exact .bind (.ofExcept _) fun _ => hlistings
  · exact hlistings

theorem Errand.built (errand : Errand) :
    (errand.operation provider).Built provider.policy errand.credentials none none := by
  cases errand with
  | programs => exact .bind built_programs fun _ => .pure _
  | channels => exact .bind built_channels fun _ => .pure _
  | lineups => exact .bind built_lineups fun _ => .pure _
  | hasLineup => exact .bind built_hasLineup fun _ => .pure _
  | addLineup => exact .bind built_addLineup fun _ => .pure _
  | validate => exact .bind built_validate fun _ => .pure _

end Built

end ProgramGuide
