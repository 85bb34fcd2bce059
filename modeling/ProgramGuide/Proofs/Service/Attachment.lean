import Mathlib.Data.List.Basic
import ProgramGuide.Proofs.Service.Acquisition
import ProgramGuide.Proofs.Service.Course

/-!
# Attaching a lineup

A check of a lineup asks once which lineups the account has, and attaches the lineup once
when the answer shows that it is missing.
-/

namespace ProgramGuide

namespace Attachment

/-! ## Answers -/

def Succeeds (answer : Except Failure Response) : Prop :=
  ∃ response, answer = .ok response ∧ 200 ≤ response.status ∧ response.status < 300

/-- A success with the lineups of an account. -/
def Brings (answer : Except Failure Response) (lineups : List LineupDescriptor) : Prop :=
  ∃ response, answer = .ok response ∧ 200 ≤ response.status ∧ response.status < 300 ∧
    response.decode "lineups" LineupDescriptor.listOfJson? = .ok lineups

/-- The account has the lineup. -/
def Lists (id : String) (answer : Except Failure Response) : Prop :=
  ∃ lineups, Brings answer lineups ∧
    ∃ d ∈ lineups, Text.sameIgnoringCase d.lineup id = true

/-- The account has no lineup, or others only. -/
def Lacks (id : String) (answer : Except Failure Response) : Prop :=
  Tokens.statusOf answer = some 400 ∨
    ∃ lineups, Brings answer lineups ∧
      ∀ d ∈ lineups, Text.sameIgnoringCase d.lineup id = false

section Answers

variable {answer : Except Failure Response} {lineups lineups' : List LineupDescriptor}
variable {id : String}

theorem succeeds_iff_judged : Succeeds answer ↔ ∃ r, Transport.judged answer = .ok r := by
  simp only [Succeeds, Transport.judged_eq_ok_iff]

theorem brings_iff_judged :
    Brings answer lineups ↔
      ∃ r, Transport.judged answer = .ok r ∧
        r.decode "lineups" LineupDescriptor.listOfJson? = .ok lineups := by
  simp only [Brings, Transport.judged_eq_ok_iff, and_assoc]

theorem statusOf_ne_of_succeeds (h : Succeeds answer) : Tokens.statusOf answer ≠ some 400 := by
  obtain ⟨response, rfl, hlow, hhigh⟩ := h
  simp only [Tokens.statusOf, ne_eq, Option.some.injEq]
  omega

theorem Brings.succeeds (h : Brings answer lineups) : Succeeds answer := by
  obtain ⟨response, hanswer, hlow, hhigh, -⟩ := h
  exact ⟨response, hanswer, hlow, hhigh⟩

theorem brings_unique (h : Brings answer lineups) (h' : Brings answer lineups') :
    lineups = lineups' := by
  obtain ⟨response, rfl, -, -, hlineups⟩ := h
  obtain ⟨_, ⟨⟩, -, -, hlineups'⟩ := h'
  exact Except.ok.inj (hlineups.symm.trans hlineups')

theorem not_lists_of_lacks (h : Lacks id answer) : ¬Lists id answer := by
  rintro ⟨lineups, hbrings, d, hd, hsame⟩
  obtain hstatus | ⟨others, hothers, hnone⟩ := h
  · exact statusOf_ne_of_succeeds hbrings.succeeds hstatus
  · rw [brings_unique hbrings hothers] at hd
    rw [hnone d hd] at hsame
    cases hsame

/-- The answer that the provider takes for that of an account without lineups. -/
theorem isRejection_iff_of_judged {failure : Failure}
    (h : Transport.judged answer = .error failure) :
    failure.isRejection = true ↔ Tokens.statusOf answer = some 400 := by
  cases answer with
  | error cause =>
      cases h
      simp [Failure.isRejection, Tokens.statusOf, rejectionStatus]
  | ok response =>
      unfold Transport.judged at h
      dsimp only at h
      split at h
      next => cases h
      next =>
        cases h
        simp [Failure.isRejection, Response.failure, Failure.status?, Tokens.statusOf,
          rejectionStatus]

end Answers

/-! ## Paths -/

open Operation Course

/-- How the account is asked for its lineups. -/
inductive Asked (account : Account) (id : String) : List Exchange → Except Failure Bool → Prop
  | unasked {opening failure} (hopening : Opening account.credentials opening) :
      Asked account id opening (.error failure)
  | lists {opening asked} (hopening : Opening account.credentials opening)
      (hget : asked.Attempts (.get "lineups")) (hlists : Lists id asked.answer) :
      Asked account id (opening ++ [asked]) (.ok true)
  | lacks {opening asked} (hopening : Opening account.credentials opening)
      (hget : asked.Attempts (.get "lineups")) (hlacks : Lacks id asked.answer) :
      Asked account id (opening ++ [asked]) (.ok false)
  | failed {opening asked failure} (hopening : Opening account.credentials opening)
      (hget : asked.Attempts (.get "lineups")) (hlists : ¬Lists id asked.answer)
      (hlacks : ¬Lacks id asked.answer) :
      Asked account id (opening ++ [asked]) (.error failure)

/-- How the lineup is attached. -/
inductive Added (account : Account) (id : String) : List Exchange → Except Failure Unit → Prop
  | unsent {opening failure} (hopening : Opening account.credentials opening) :
      Added account id opening (.error failure)
  | attached {opening added} (hopening : Opening account.credentials opening)
      (hput : added.Attempts (.put (Provider.lineupPath id)))
      (hsuccess : Succeeds added.answer) :
      Added account id (opening ++ [added]) (.ok ())
  | failed {opening added failure} (hopening : Opening account.credentials opening)
      (hput : added.Attempts (.put (Provider.lineupPath id)))
      (hsuccess : ¬Succeeds added.answer) :
      Added account id (opening ++ [added]) (.error failure)

/-- How a lineup is checked. -/
inductive Checked (account : Account) (id : String) :
    List Exchange → Except Failure Unit → Prop
  | stopped {sent failure} (hasked : Asked account id sent (.error failure)) :
      Checked account id sent (.error failure)
  | present {sent} (hasked : Asked account id sent (.ok true)) :
      Checked account id sent (.ok ())
  | missing {sent rest result} (hasked : Asked account id sent (.ok false))
      (hadded : Added account id rest result) :
      Checked account id (sent ++ rest) result

variable {provider : Provider} {account : Account} {store store' : TokenStore}
variable {events : List Event} {id token : String}

theorem requireListingsId_eq_ok (h : Provider.requireListingsId account = .ok id) :
    id = Text.trim account.listingsId := by
  unfold Provider.requireListingsId at h
  dsimp only at h
  split at h
  · cases h
  · exact (Except.ok.inj h).symm

/-- A request that may not be repeated is handed over once. -/
theorem once_of_send {policy : TokenPolicy} {c : Credentials} {request : Request}
    {result : Except Failure Response}
    (h : (Transport.send policy false c (request.withToken token)).Runs store events result
      store') :
    (exchanges events = [] ∧ result = .error .cancelled) ∨
      ∃ exchange, exchanges events = [exchange] ∧ exchange.Attempts request ∧
        result = Transport.judged exchange.answer := by
  have hsent := Transport.send_path h
  cases hsent with
  | @broken _ renewed sent failure hrenewed hsent =>
      rw [Transport.exchanges_of_renewed _ hrenewed]
      cases sent with
      | false => simp [hsent rfl]
      | true =>
          have hattempts := Transport.attempts_of_renewed hrenewed (.error failure)
          exact .inr ⟨_, rfl, hattempts, rfl⟩
  | @final _ renewed response hrenewed =>
      rw [Transport.exchanges_of_renewed _ hrenewed]
      have hattempts := Transport.attempts_of_renewed hrenewed (.ok response)
      exact .inr ⟨_, rfl, hattempts, rfl⟩
  | tokenFailed _ hretry => simp [Transport.mayRetry] at hretry
  | tokenless _ hretry => simp [Transport.mayRetry] at hretry
  | retried _ hretry => simp [Transport.mayRetry] at hretry

theorem opening_of_requireToken {refusal : Refusal} {result : Except Failure String}
    (h : (provider.requireToken account refusal).Runs store events result store') :
    Opening account.credentials (exchanges events) := by
  unfold Provider.requireToken at h
  rw [runs_bind] at h
  obtain ⟨failure, hacquire, -⟩ | ⟨first, rest, token, store₁, rfl, hacquire, h⟩ := h
  · exact opening_of_acquired (Tokens.acquire_path hacquire)
  · have hrest : rest = [] := by
      split at h
      · exact (runs_pure.mp h).1
      · exact (runs_throw.mp h).1
    rw [hrest, List.append_nil]
    exact opening_of_acquired (Tokens.acquire_path hacquire)

theorem asked_of_brings {opening : List Exchange} {asked : Exchange}
    {lineups : List LineupDescriptor} (hopening : Opening account.credentials opening)
    (hget : asked.Attempts (.get "lineups")) (h : Brings asked.answer lineups) :
    Asked account id (opening ++ [asked])
      (.ok (lineups.any fun d => Text.sameIgnoringCase d.lineup id)) := by
  cases hany : lineups.any fun d => Text.sameIgnoringCase d.lineup id with
  | true => exact .lists hopening hget ⟨lineups, h, by simpa using hany⟩
  | false => exact .lacks hopening hget (.inr ⟨lineups, h, by simpa using hany⟩)

theorem asked_of_unread {opening : List Exchange} {asked : Exchange} {failure : Failure}
    (hopening : Opening account.credentials opening)
    (hget : asked.Attempts (.get "lineups")) (hstatus : Tokens.statusOf asked.answer ≠ some 400)
    (hbrings : ∀ lineups, ¬Brings asked.answer lineups) :
    Asked account id (opening ++ [asked]) (.error failure) := by
  apply Asked.failed hopening hget
  · simp [Lists, hbrings]
  · simp [Lacks, hstatus, hbrings]

theorem asked_of_hasLineup {result : Except Failure Bool}
    (h : (provider.hasLineup account).Runs store events result store') :
    Asked account (Text.trim account.listingsId) (exchanges events) result := by
  unfold Provider.hasLineup at h
  rw [runs_ofExcept_bind] at h
  obtain ⟨failure, -, rfl, rfl, -⟩ | ⟨id, hid, h⟩ := h
  · exact .unasked .settled
  obtain rfl := requireListingsId_eq_ok hid
  rw [runs_bind] at h
  obtain ⟨failure, htoken, rfl⟩ | ⟨first, rest, token, store₁, rfl, htoken, h⟩ := h
  · exact .unasked (opening_of_requireToken htoken)
  have hopening := opening_of_requireToken htoken
  dsimp only at h
  rw [runs_outcome_bind] at h
  obtain ⟨second, rest, outcome, store₂, rfl, hsend, h⟩ := h
  rw [exchanges_append, exchanges_append]
  obtain ⟨hnone, rfl⟩ | ⟨asked, hone, hget, rfl⟩ := once_of_send hsend
  · simp only [Failure.isRejection, Failure.status?] at h
    obtain ⟨rfl, rfl, -⟩ := runs_throw.mp h
    rw [hnone]
    simpa using Asked.unasked hopening
  rw [hone]
  cases hjudged : Transport.judged asked.answer with
  | ok response =>
      rw [hjudged] at h
      dsimp only at h
      rw [runs_ofExcept_bind] at h
      obtain ⟨failure, hdecode, rfl, rfl, -⟩ | ⟨lineups, hdecode, h⟩ := h
      · have hstatus := statusOf_ne_of_succeeds (succeeds_iff_judged.mpr ⟨response, hjudged⟩)
        rw [exchanges_nil, List.append_nil]
        exact asked_of_unread hopening hget hstatus
          (by simp [brings_iff_judged, hjudged, hdecode])
      · obtain ⟨rfl, rfl, -⟩ := runs_pure.mp h
        rw [exchanges_nil, List.append_nil]
        exact asked_of_brings hopening hget
          (brings_iff_judged.mpr ⟨response, hjudged, hdecode⟩)
  | error failure =>
      rw [hjudged] at h
      have hrejection := isRejection_iff_of_judged hjudged
      dsimp only at h
      split at h
      next hrejected =>
        obtain ⟨rfl, rfl, -⟩ := runs_pure.mp h
        rw [exchanges_nil, List.append_nil]
        exact .lacks hopening hget (.inl (hrejection.mp hrejected))
      next hrejected =>
        obtain ⟨rfl, rfl, -⟩ := runs_throw.mp h
        rw [exchanges_nil, List.append_nil]
        exact asked_of_unread hopening hget (fun hstatus => hrejected (hrejection.mpr hstatus))
          (by simp [brings_iff_judged, hjudged])

theorem added_of_addLineup {result : Except Failure Unit}
    (h : (provider.addLineup account).Runs store events result store') :
    Added account (Text.trim account.listingsId) (exchanges events) result := by
  unfold Provider.addLineup at h
  rw [runs_bind] at h
  obtain ⟨failure, htoken, rfl⟩ | ⟨first, rest, token, store₁, rfl, htoken, h⟩ := h
  · exact .unsent (opening_of_requireToken htoken)
  have hopening := opening_of_requireToken htoken
  rw [exchanges_append]
  rw [runs_ofExcept_bind] at h
  obtain ⟨failure, -, rfl, rfl, -⟩ | ⟨id, hid, h⟩ := h
  · simpa using Added.unsent hopening
  obtain rfl := requireListingsId_eq_ok hid
  rw [runs_bind] at h
  obtain ⟨failure, hsend, rfl⟩ | ⟨second, rest, response, store₂, rfl, hsend, h⟩ := h
  · obtain ⟨hnone, -⟩ | ⟨added, hone, hput, hjudged⟩ := once_of_send hsend
    · rw [hnone, List.append_nil]
      exact .unsent hopening
    · rw [hone]
      exact .failed hopening hput (by simp [succeeds_iff_judged, ← hjudged])
  · obtain ⟨rfl, rfl, -⟩ := runs_pure.mp h
    obtain ⟨-, hresult⟩ | ⟨added, hone, hput, hjudged⟩ := once_of_send hsend
    · cases hresult
    · rw [List.append_nil, hone]
      exact .attached hopening hput (succeeds_iff_judged.mpr ⟨response, hjudged.symm⟩)

theorem checked_of_listings {result : Except Failure Unit}
    (h : (do
      let _ ← Operation.ofExcept (Provider.requireListingsId account)
      if !(← provider.hasLineup account) then provider.addLineup account :
        Operation Unit).Runs store events result store') :
    Checked account (Text.trim account.listingsId) (exchanges events) result := by
  rw [runs_ofExcept_bind] at h
  obtain ⟨failure, -, rfl, rfl, -⟩ | ⟨-, -, h⟩ := h
  · exact .stopped (.unasked .settled)
  rw [runs_bind] at h
  obtain ⟨failure, hasked, rfl⟩ | ⟨first, rest, has, store₁, rfl, hasked, h⟩ := h
  · exact .stopped (asked_of_hasLineup hasked)
  replace hasked := asked_of_hasLineup hasked
  rw [exchanges_append]
  cases has with
  | true =>
      obtain ⟨rfl, rfl, -⟩ := runs_pure.mp h
      rw [exchanges_nil, List.append_nil]
      exact .present hasked
  | false => exact .missing hasked (added_of_addLineup h)

theorem checked_of_validate {login : Bool} {result : Except Failure Unit}
    (h : (provider.validate account login true).Runs store events result store') :
    Checked account (Text.trim account.listingsId) (exchanges events) result := by
  unfold Provider.validate at h
  dsimp only at h
  split at h
  · rw [runs_ofExcept_bind] at h
    obtain ⟨failure, -, rfl, rfl, -⟩ | ⟨-, -, h⟩ := h
    · exact .stopped (.unasked .settled)
    · exact checked_of_listings h
  · exact checked_of_listings h

/-! ## Visits -/

def visits (sent : List Exchange) : List Exchange := sent.filter (·.request.method != .post)

/-- A check of a lineup as the service sees it, apart from the tokens. -/
inductive Visited (id : String) : List Exchange → Except Failure Unit → Prop
  | nothing {failure} : Visited id [] (.error failure)
  | asked {asked result} (hget : asked.Attempts (.get "lineups"))
      (hresult : result = .ok () ↔ Lists id asked.answer) : Visited id [asked] result
  | added {asked added result} (hget : asked.Attempts (.get "lineups"))
      (hlacks : Lacks id asked.answer)
      (hput : added.Attempts (.put (Provider.lineupPath id)))
      (hresult : result = .ok () ↔ Succeeds added.answer) : Visited id [asked, added] result

section Visits

variable {sent rest : List Exchange} {asked added : Exchange} {path : String}

@[simp] theorem visits_append : visits (sent ++ rest) = visits sent ++ visits rest :=
  List.filter_append ..

theorem visits_of_opening {c : Credentials} (h : Opening c sent) :
    visits sent = [] := by
  cases h <;> rfl

theorem method_of_get (h : asked.Attempts (.get path)) : asked.request.method = .get := by
  obtain ⟨token, h⟩ := h
  rw [h]
  rfl

theorem method_of_put (h : asked.Attempts (.put path)) : asked.request.method = .put := by
  obtain ⟨token, h⟩ := h
  rw [h]
  rfl

theorem visits_of_get (h : asked.Attempts (.get path)) : visits [asked] = [asked] := by
  simp [visits, method_of_get h]

theorem visits_of_put (h : asked.Attempts (.put path)) : visits [asked] = [asked] := by
  simp [visits, method_of_put h]

theorem visited_of_missing {result : Except Failure Unit}
    (hget : asked.Attempts (.get "lineups")) (hlacks : Lacks id asked.answer)
    (h : Added account id rest result) : Visited id (asked :: visits rest) result := by
  cases h with
  | unsent hopening =>
      rw [visits_of_opening hopening]
      exact .asked hget (by simp [not_lists_of_lacks hlacks])
  | attached hopening hput hsuccess =>
      rw [visits_append, visits_of_opening hopening, visits_of_put hput]
      exact .added hget hlacks hput (by simp [hsuccess])
  | failed hopening hput hsuccess =>
      rw [visits_append, visits_of_opening hopening, visits_of_put hput]
      exact .added hget hlacks hput (by simp [hsuccess])

theorem visited_of_checked {result : Except Failure Unit}
    (h : Checked account id sent result) : Visited id (visits sent) result := by
  cases h with
  | stopped hasked =>
      cases hasked with
      | unasked hopening =>
          rw [visits_of_opening hopening]
          exact .nothing
      | failed hopening hget hlists _ =>
          rw [visits_append, visits_of_opening hopening, visits_of_get hget]
          exact .asked hget (by simp [hlists])
  | present hasked =>
      cases hasked with
      | lists hopening hget hlists =>
          rw [visits_append, visits_of_opening hopening, visits_of_get hget]
          exact .asked hget (by simp [hlists])
  | missing hasked hadded =>
      cases hasked with
      | lacks hopening hget hlacks =>
          rw [visits_append, visits_append, visits_of_opening hopening, visits_of_get hget]
          exact visited_of_missing hget hlacks hadded

end Visits

/-- The lineup of the account is attached once the visits are over. -/
inductive Settled (id : String) : List Exchange → Prop
  | present {asked} (hget : asked.Attempts (.get "lineups"))
      (hlists : Lists id asked.answer) : Settled id [asked]
  | attached {asked added} (hget : asked.Attempts (.get "lineups"))
      (hlacks : Lacks id asked.answer)
      (hput : added.Attempts (.put (Provider.lineupPath id)))
      (hsuccess : Succeeds added.answer) : Settled id [asked, added]

/-- How a check of a lineup goes, with what it hands over and its result. -/
structure Orderly (account : Account) (id : String) (sent : List Exchange)
    (result : Except Failure Unit) : Prop where
  ok_iff : result = .ok () ↔ Settled id (visits sent)
  gets_le : sent.countP (·.request.method == .get) ≤ 1
  puts_le : sent.countP (·.request.method == .put) ≤ 1
  lacks_of_put : ∀ added ∈ sent, added.request.method = .put →
    ∃ asked ∈ sent, asked.request.method = .get ∧ Lacks id asked.answer
  not_put : ∀ asked ∈ sent, asked.request.method = .get → Lists id asked.answer →
    ∀ added ∈ sent, added.request.method ≠ .put
  not_ok_of_get : ∀ asked ∈ sent, asked.request.method = .get → ¬Lists id asked.answer →
    ¬Lacks id asked.answer → result ≠ .ok ()
  not_ok_of_put : ∀ added ∈ sent, added.request.method = .put → ¬Succeeds added.answer →
    result ≠ .ok ()
  requests : ∀ exchange ∈ sent, exchange.request = Tokens.request account.credentials ∨
    exchange.Attempts (.get "lineups") ∨ exchange.Attempts (.put (Provider.lineupPath id))

namespace Visited

variable {seen : List Exchange} {result : Except Failure Unit} {asked added : Exchange}

theorem ok_iff (h : Visited id seen result) : result = .ok () ↔ Settled id seen := by
  cases h with
  | nothing => simpa using nofun
  | asked hget hresult =>
      rw [hresult]
      constructor
      · exact .present hget
      · intro hsettled
        cases hsettled with
        | present _ hlists => exact hlists
  | added hget hlacks hput hresult =>
      rw [hresult]
      constructor
      · exact .attached hget hlacks hput
      · intro hsettled
        cases hsettled with
        | attached _ _ _ hsuccess => exact hsuccess

theorem countP_le (h : Visited id seen result) (method : Method) :
    seen.countP (·.request.method == method) ≤ 1 := by
  cases h with
  | nothing => simp
  | asked => exact List.countP_le_length
  | added hget _ hput =>
      cases method <;> simp [method_of_get hget, method_of_put hput]

/-- The lineup is attached only when the answer has shown that it is missing. -/
theorem of_put (h : Visited id seen result) (hadded : added ∈ seen)
    (hput : added.request.method = .put) :
    ∃ asked, seen = [asked, added] ∧ asked.request.method = .get ∧ Lacks id asked.answer ∧
      (result = .ok () ↔ Succeeds added.answer) := by
  cases h with
  | nothing => cases hadded
  | asked hget =>
      obtain rfl := List.mem_singleton.mp hadded
      rw [method_of_get hget] at hput
      cases hput
  | @added asked _ _ hget hlacks _ hresult =>
      obtain rfl | rfl := List.mem_pair.mp hadded
      · rw [method_of_get hget] at hput
        cases hput
      · exact ⟨asked, rfl, method_of_get hget, hlacks, hresult⟩

theorem lists_or_lacks (h : Visited id seen result) (hasked : asked ∈ seen)
    (hget : asked.request.method = .get) (hok : result = .ok ()) :
    Lists id asked.answer ∨ Lacks id asked.answer := by
  cases h with
  | nothing => cases hok
  | asked _ hresult =>
      obtain rfl := List.mem_singleton.mp hasked
      exact .inl (hresult.mp hok)
  | added hget' hlacks hput =>
      obtain rfl | rfl := List.mem_pair.mp hasked
      · exact .inr hlacks
      · rw [method_of_put hput] at hget
        cases hget

end Visited

section Requests

variable {sent : List Exchange} {exchange : Exchange}

theorem request_of_asked {result : Except Failure Bool} (h : Asked account id sent result)
    (hsent : exchange ∈ sent) :
    exchange.request = Tokens.request account.credentials ∨
      exchange.Attempts (.get "lineups") := by
  cases h with
  | unasked hopening => exact .inl (request_of_opening hopening hsent)
  | lists hopening hget | lacks hopening hget | failed hopening hget =>
      obtain hsent | hsent := List.mem_append.mp hsent
      · exact .inl (request_of_opening hopening hsent)
      · obtain rfl := List.mem_singleton.mp hsent
        exact .inr hget

theorem request_of_added {result : Except Failure Unit} (h : Added account id sent result)
    (hsent : exchange ∈ sent) :
    exchange.request = Tokens.request account.credentials ∨
      exchange.Attempts (.put (Provider.lineupPath id)) := by
  cases h with
  | unsent hopening => exact .inl (request_of_opening hopening hsent)
  | attached hopening hput | failed hopening hput =>
      obtain hsent | hsent := List.mem_append.mp hsent
      · exact .inl (request_of_opening hopening hsent)
      · obtain rfl := List.mem_singleton.mp hsent
        exact .inr hput

theorem request_of_checked {result : Except Failure Unit}
    (h : Checked account id sent result) (hsent : exchange ∈ sent) :
    exchange.request = Tokens.request account.credentials ∨
      exchange.Attempts (.get "lineups") ∨
      exchange.Attempts (.put (Provider.lineupPath id)) := by
  cases h with
  | stopped hasked | present hasked =>
      obtain htoken | hget := request_of_asked hasked hsent
      · exact .inl htoken
      · exact .inr (.inl hget)
  | missing hasked hadded =>
      obtain hsent | hsent := List.mem_append.mp hsent
      · obtain htoken | hget := request_of_asked hasked hsent
        · exact .inl htoken
        · exact .inr (.inl hget)
      · obtain htoken | hput := request_of_added hadded hsent
        · exact .inl htoken
        · exact .inr (.inr hput)

theorem mem_visits : exchange ∈ visits sent ↔
    exchange ∈ sent ∧ exchange.request.method ≠ .post := by
  simp [visits]

theorem countP_visits {method : Method} (h : method ≠ .post) :
    (visits sent).countP (·.request.method == method) =
      sent.countP (·.request.method == method) := by
  rw [visits, List.countP_filter]
  apply List.countP_congr
  intro exchange _
  simp only [Bool.and_eq_true, beq_iff_eq, bne_iff_ne, and_iff_left_iff_imp]
  rintro rfl
  exact h

theorem orderly_of_checked {result : Except Failure Unit}
    (h : Checked account id sent result) : Orderly account id sent result := by
  have hvisited := visited_of_checked h
  have hvisits {method : Method} (hmethod : method ≠ .post) {exchange : Exchange}
      (hsent : exchange ∈ sent) (h : exchange.request.method = method) :
      exchange ∈ visits sent :=
    mem_visits.mpr ⟨hsent, h ▸ hmethod⟩
  constructor
  case ok_iff => exact hvisited.ok_iff
  case gets_le =>
    rw [← countP_visits (by decide)]
    exact hvisited.countP_le .get
  case puts_le =>
    rw [← countP_visits (by decide)]
    exact hvisited.countP_le .put
  case lacks_of_put =>
    intro added hadded hput
    have hmem := hvisits (by decide) hadded hput
    obtain ⟨asked, hseen, hget, hlacks, -⟩ := hvisited.of_put hmem hput
    have hasked : asked ∈ visits sent := by simp [hseen]
    exact ⟨asked, (mem_visits.mp hasked).1, hget, hlacks⟩
  case not_put =>
    intro asked hasked hget hlists added hadded hput
    have hmem := hvisits (by decide) hadded hput
    obtain ⟨first, hseen, -, hlacks, -⟩ := hvisited.of_put hmem hput
    have hfirst := hvisits (by decide) hasked hget
    rw [hseen] at hfirst
    obtain rfl | rfl := List.mem_pair.mp hfirst
    · exact not_lists_of_lacks hlacks hlists
    · rw [hput] at hget
      cases hget
  case not_ok_of_get =>
    intro asked hasked hget hlists hlacks hok
    obtain h | h := hvisited.lists_or_lacks (hvisits (by decide) hasked hget) hget hok
    · exact hlists h
    · exact hlacks h
  case not_ok_of_put =>
    intro added hadded hput hsuccess hok
    have hmem := hvisits (by decide) hadded hput
    obtain ⟨_, -, -, -, hresult⟩ := hvisited.of_put hmem hput
    exact hsuccess (hresult.mp hok)
  case requests => exact fun exchange hsent => request_of_checked h hsent

end Requests

end Attachment

open Attachment in
/-- Whatever the service answers and the store holds, a check of a lineup that succeeds
leaves it attached, and what it takes to do so is sent once. -/
theorem Provider.orderly_of_validate (provider : Provider) (account : Account)
    (login : Bool) (store : TokenStore) (o : Outside) :
    let played := (provider.validate account login true).play store o
    Orderly account (Text.trim account.listingsId) (exchanges played.events)
      played.result := by
  have hchecked := checked_of_validate
    (Operation.play_runs (provider.validate account login true) store o)
  exact orderly_of_checked hchecked

open Attachment Listing in
/-- An account without lineups gets its lineup. -/
example :
    let account : Account := ⟨⟨"viewer", "pw"⟩, " USA-1 "⟩
    let played := (plainProvider.validate account false true).play .empty
      (answering [(1, "\x7b\"message\":\"OK\",\"token\":\"tok\"\x7d"),
        (4, "\x7b\"lineups\":[]\x7d"), (7, "")])
    played.result = .ok () ∧
      (visits (exchanges played.events)).map (·.request.path) = ["lineups", "lineups/USA-1"] := by
  decide +kernel

end ProgramGuide
