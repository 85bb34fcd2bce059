import ProgramGuide.Proofs.Service.Acquisition
import ProgramGuide.Proofs.Service.Call
import ProgramGuide.Proofs.Text.Blank

/-!
# Preconditions

What an operation cannot do without is looked for before anything is done: an account that
lacks it is declined with nothing sent and the store as it was.  One operation acquires
a token first.
-/

namespace ProgramGuide

/-- The first thing that an account lacks for a login. -/
def Account.loginFault? (account : Account) : Option Misconfiguration :=
  if Text.blank account.credentials.username then some .usernameRequired
  else if account.credentials.password = "" then some .passwordRequired
  else none

def Account.lineupFault? (account : Account) : Option Misconfiguration :=
  if Text.blank account.listingsId then some .listingsIdRequired else none

/-- The first thing that an errand needs of its account and does not find there. -/
def Errand.fault? : Errand → Option Misconfiguration
  | programs .. => none
  | channels account => account.lineupFault?
  | lineups .. => none
  | hasLineup account => account.lineupFault?
  | addLineup account => account.lineupFault?
  | validate account login listings =>
      (if login then account.loginFault? else none).or
        (if listings then account.lineupFault? else none)

/-- The end of an operation that is misconfigured, with nothing sent and the store as it
was found. -/
structure Declined (store : TokenStore) (cause : Misconfiguration)
    (p : Played (Except Failure α)) : Prop where
  result : p.result = .error (.configuration cause)
  requests : p.requests = []
  store : p.store = store

variable {store : TokenStore} {o : Outside} {cause : Misconfiguration}

namespace Declined

theorem of_check {check : Except Failure α} {f : α → Operation β}
    (h : check = .error (.configuration cause)) :
    Declined store cause ((Operation.ofExcept check >>= f).play store o) := by
  subst h
  exact ⟨rfl, rfl, rfl⟩

/-- What an operation that succeeds goes on to say does not matter. -/
theorem bind_pure_iff {op : Operation α} {f : α → β} :
    Declined store cause ((op >>= fun a => pure (f a)).play store o) ↔
      Declined store cause (op.play store o) := by
  rw [Operation.play_bind]
  cases hresult : (op.play store o).result with
  | error failure =>
      simp only [hresult]
      constructor
      · intro h
        have hfailure : failure = .configuration cause := Except.error.inj h.result
        exact ⟨by rw [hresult, hfailure], h.requests, h.store⟩
      · intro h
        have hfailure := hresult.symm.trans h.result
        exact ⟨congrArg Except.error (Except.error.inj hfailure), h.requests, h.store⟩
  | ok a =>
      simp only [hresult]
      constructor
      · intro h
        cases h.result
      · intro h
        cases hresult.symm.trans h.result

end Declined

namespace Provider

variable {provider : Provider} {account : Account}

theorem requireListingsId_of_fault (h : account.lineupFault? = some cause) :
    requireListingsId account = .error (.configuration cause) := by
  unfold Account.lineupFault? at h
  unfold requireListingsId
  dsimp only
  rw [Text.isEmpty_trim]
  split at h
  next hblank =>
    cases h
    rw [if_pos hblank]
  next => cases h

theorem checkLogin_of_fault (h : account.loginFault? = some cause) :
    checkLogin account = .error (.configuration cause) := by
  unfold Account.loginFault? at h
  unfold checkLogin
  simp only [String.isEmpty_iff]
  split at h
  next hblank =>
    cases h
    rw [if_pos hblank]
  next hblank =>
    split at h
    next hempty =>
      cases h
      rw [if_neg hblank, if_pos hempty]
    next => cases h

theorem checkLogin_of_sound (h : account.loginFault? = none) :
    checkLogin account = .ok () := by
  unfold Account.loginFault? at h
  unfold checkLogin
  simp only [String.isEmpty_iff]
  split at h
  next => cases h
  next hblank =>
    split at h
    next => cases h
    next hempty => rw [if_neg hblank, if_neg hempty]

theorem declined_validate {login listings : Bool}
    (h : (Errand.validate account login listings).fault? = some cause) :
    Declined store cause ((provider.validate account login listings).play store o) := by
  have hlistings (h : (if listings = true then account.lineupFault? else none) = some cause) :
      Declined store cause ((if listings = true then do
          let _ ← Operation.ofExcept (requireListingsId account)
          if !(← provider.hasLineup account) then provider.addLineup account
        else pure () : Operation Unit).play store o) := by
    split at h
    next hlistings =>
      rw [if_pos hlistings]
      exact .of_check (requireListingsId_of_fault h)
    next => cases h
  unfold Provider.validate
  dsimp only
  unfold Errand.fault? at h
  cases login with
  | false => exact hlistings (by simpa using h)
  | true =>
      simp only [if_true] at h ⊢
      cases hlogin : account.loginFault? with
      | none =>
          rw [checkLogin_of_sound hlogin]
          exact hlistings (by simpa [hlogin] using h)
      | some fault =>
          obtain rfl : fault = cause := by simpa [hlogin] using h
          exact .of_check (checkLogin_of_fault hlogin)

/-- How attaching a lineup without an id fails: it does so once there is a token. -/
def attachFailure (cause : Misconfiguration) : Except Failure (Option String) → Failure
  | .error failure => failure
  | .ok none => .authentication .authenticationRequired
  | .ok (some _) => .configuration cause

theorem addLineup_of_fault (h : account.lineupFault? = some cause) :
    provider.addLineup account =
      Tokens.acquire provider.policy account.credentials >>= fun token =>
        Operation.ofExcept (.error (attachFailure cause (.ok token))) := by
  unfold addLineup requireToken
  rw [requireListingsId_of_fault h, bind_assoc]
  congr
  funext token
  cases token <;> rfl

theorem play_addLineup_of_fault (h : account.lineupFault? = some cause) :
    (provider.addLineup account).play store o =
      let acquired := (Tokens.acquire provider.policy account.credentials).play store o
      ⟨.error (attachFailure cause acquired.result), acquired.store, acquired.events⟩ := by
  rw [addLineup_of_fault h, Operation.play_bind]
  dsimp only
  cases hresult : ((Tokens.acquire provider.policy account.credentials).play store o).result with
  | error failure => rfl
  | ok token => exact congrArg (Played.mk _ _) (List.append_nil _)

open Tokens in
theorem declined_addLineup_iff (h : account.lineupFault? = some cause) :
    Declined store cause ((provider.addLineup account).play store o) ↔
      Fate.cached.Falls provider.policy account.credentials store
        ((acquire provider.policy account.credentials).play store o) := by
  rw [play_addLineup_of_fault h]
  dsimp only
  obtain ⟨fate, hfate, -⟩ := existsUnique_fate provider.policy account.credentials store o
  generalize (acquire provider.policy account.credentials).play store o = p at *
  constructor
  · intro hdeclined
    have hfailure : attachFailure cause p.result = .configuration cause :=
      Except.error.inj hdeclined.result
    have hrequests : p.requests = [] := hdeclined.requests
    cases fate with
    | cached => exact hfate
    | incomplete =>
        obtain ⟨-, rfl, -⟩ := hfate
        cases hfailure
    | cooling =>
        obtain ⟨-, _, _, _, _, -, -, -, -, rfl, -⟩ := hfate
        cases hfailure
    | granted =>
        obtain ⟨-, _, _, _, _, _, -, -, -, -, -, hsent, -⟩ := hfate
        cases hrequests.symm.trans hsent
    | rejected =>
        obtain ⟨-, _, _, _, _, -, -, -, -, hsent⟩ := hfate
        cases hrequests.symm.trans hsent
    | failed =>
        obtain ⟨-, _, failure, -, hresult, -, hfailed⟩ := hfate
        rw [hresult] at hfailure
        obtain ⟨rfl, -⟩ | ⟨_, -, ⟨rfl, -⟩ | ⟨_, -, -, -, -, hsent⟩⟩ := hfailed
        · cases hfailure
        · cases hfailure
        · cases hrequests.symm.trans hsent
  · rintro ⟨-, before, token, now, -, -, -, rfl, hrequests⟩
    exact ⟨rfl, hrequests, rfl⟩

end Provider

open Tokens in
/-- A misconfigured errand is declined before anything is done, save that attaching a
lineup is when there is a fresh token at hand, and only then. -/
theorem Errand.declined_iff {errand : Errand} (provider : Provider) (store : TokenStore)
    (o : Outside) (h : errand.fault? = some cause) :
    Declined store cause ((errand.operation provider).play store o) ↔
      ∀ account, errand = .addLineup account →
        Fate.cached.Falls provider.policy account.credentials store
          ((acquire provider.policy account.credentials).play store o) := by
  cases errand with
  | programs => cases h
  | lineups => cases h
  | channels account =>
      refine iff_of_true (Declined.bind_pure_iff.mpr ?_) nofun
      exact .of_check (Provider.requireListingsId_of_fault h)
  | hasLineup account =>
      refine iff_of_true (Declined.bind_pure_iff.mpr ?_) nofun
      exact .of_check (Provider.requireListingsId_of_fault h)
  | validate account login listings =>
      refine iff_of_true (Declined.bind_pure_iff.mpr ?_) nofun
      exact Provider.declined_validate h
  | addLineup account =>
      refine Declined.bind_pure_iff.trans ((Provider.declined_addLineup_iff h).trans ?_)
      constructor
      · rintro hcached _ ⟨⟩
        exact hcached
      · intro hcached
        exact hcached account rfl

namespace Unlisted

def provider : Provider := ⟨⟨72000000000000, 60000000000⟩, .fixed 0, ""⟩

def unlisted : Account := ⟨⟨"viewer", "pw"⟩, " "⟩

def outside : Outside := fun _ =>
  ⟨⟨1704412800, 0⟩, false, .ok ⟨200, "\x7b\"message\":\"OK\",\"token\":\"tok\"\x7d"⟩⟩

end Unlisted

open Unlisted in
theorem Errand.declined_unlisted :
    (Errand.channels unlisted).fault? = some .listingsIdRequired ∧
      Declined .empty .listingsIdRequired
        (((Errand.channels unlisted).operation provider).play .empty outside) := by
  have h : (Errand.channels unlisted).fault? = some .listingsIdRequired := by
    decide +kernel
  exact ⟨h, (Errand.declined_iff provider .empty outside h).mpr nofun⟩

open Unlisted in
theorem Errand.not_declined_of_fault :
    ¬∀ (errand : Errand) (cause : Misconfiguration) (provider : Provider)
      (store : TokenStore) (o : Outside), errand.fault? = some cause →
        Declined store cause ((errand.operation provider).play store o) := by
  intro h
  have hdeclined := h (.addLineup unlisted) .listingsIdRequired provider .empty outside
    (by decide +kernel)
  exact absurd hdeclined.requests (by decide +kernel)

end ProgramGuide
