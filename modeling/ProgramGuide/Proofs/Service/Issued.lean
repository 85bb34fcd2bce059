import ProgramGuide.Proofs.Service.Call
import ProgramGuide.Proofs.Service.Stage
import ProgramGuide.Proofs.Service.TokenStore

/-!
# Tokens on the wire

In a sequence of errands every request carries the token that was last issued to its
user.  The store holds no token but the last one issued to a user, and an errand whose
own token is superseded finds the new one in the store.
-/

namespace ProgramGuide

structure Entry where
  username : String
  request : Request
  answer : Except Failure Response
  deriving DecidableEq

namespace Event

def entry? (username : String) : Event → Option Entry
  | exchange request true answer => some ⟨username, request, answer⟩
  | _ => none

def reading? : Event → Option Instant
  | read now => some now
  | _ => none

end Event

namespace Issued

def entries (username : String) (events : List Event) : List Entry :=
  events.filterMap (Event.entry? username)

def readings (events : List Event) : List Instant := events.filterMap Event.reading?

/-- The token that a request for one brought to a user. -/
def issued? (username : String) (entry : Entry) : Option String :=
  if entry.username = username ∧ entry.request.path = "token" then
    (Tokens.verdict entry.answer).toOption
  else none

/-- The token last issued to a user, the latest entry being the last. -/
def last? (username : String) (log : List Entry) : Option String :=
  log.reverse.findSome? (issued? username)

/-- A request for a token carries none; any other carries the token last issued to its
user. -/
def Right (log : List Entry) (entry : Entry) : Prop :=
  if entry.request.path = "token" then entry.request.token = none
  else
    ∃ token, entry.request.token = some token ∧ token ≠ "" ∧
      last? entry.username log = some token

/-- Each further entry is right after those before it. -/
def Faithful (log : List Entry) : List Entry → Prop
  | [] => True
  | entry :: rest => Right log entry ∧ Faithful (log ++ [entry]) rest

/-- The clock shows no lifetime of a token to pass. -/
def Brief (policy : TokenPolicy) (times : List Instant) : Prop :=
  times.Pairwise fun earlier later => later.since earlier < policy.lifetime

instance (policy : TokenPolicy) (times : List Instant) : Decidable (Brief policy times) :=
  inferInstanceAs
    (Decidable (times.Pairwise fun earlier later => later.since earlier < policy.lifetime))

variable {username : String} {log : List Entry} {events rest : List Event}

theorem faithful_append {first second : List Entry} :
    Faithful log (first ++ second) ↔
      Faithful log first ∧ Faithful (log ++ first) second := by
  induction first generalizing log with
  | nil => simp [Faithful]
  | cons entry first ih =>
      simp only [List.cons_append, Faithful, ih, List.append_assoc, List.nil_append,
        and_assoc]

theorem right_of_faithful {before after : List Entry} {entry : Entry}
    (h : Faithful log (before ++ entry :: after)) : Right (log ++ before) entry :=
  (faithful_append.mp h).2.1

theorem entries_append : entries username (events ++ rest) =
    entries username events ++ entries username rest :=
  List.filterMap_append

theorem readings_append : readings (events ++ rest) = readings events ++ readings rest :=
  List.filterMap_append

theorem entries_of_reads (h : Stage.Reads events) : entries username events = [] := by
  refine List.filterMap_eq_nil_iff.mpr fun event hevent => ?_
  obtain ⟨now, rfl⟩ := h event hevent
  rfl

theorem last?_append (log' : List Entry) :
    last? username (log ++ log') = (last? username log').or (last? username log) := by
  simp only [last?, List.reverse_append, List.findSome?_append]

theorem last?_singleton (entry : Entry) :
    last? username [entry] = issued? username entry := by
  simp [last?]

/-- The tokens in the store are the last ones issued. -/
def Consistent (store : TokenStore) (log : List Entry) : Prop :=
  ∀ username token, store.get? username = some token →
    token.value ≠ "" ∧ last? username log = some token.value

theorem consistent_empty : Consistent .empty [] := by
  intro username token h
  cases h

theorem consistent_clear (store : TokenStore) : Consistent store.clear log := by
  intro username token h
  rw [TokenStore.get?_clear] at h
  cases h

theorem consistent_of_idle {store : TokenStore} {entry : Entry}
    (hidle : ∀ username, issued? username entry = none) (h : Consistent store log) :
    Consistent store (log ++ [entry]) := by
  intro username token hget
  rw [last?_append, last?_singleton, hidle, Option.none_or]
  exact h username token hget

theorem consistent_insert {store : TokenStore} {entry : Entry} {token : IssuedToken}
    (hnonempty : token.value ≠ "")
    (hissued : ∀ other, issued? other entry =
      if other = username then some token.value else none)
    (h : Consistent store log) :
    Consistent (store.insert username token) (log ++ [entry]) := by
  intro other stored hget
  rw [last?_append, last?_singleton, hissued]
  rw [TokenStore.get?_insert] at hget
  split at hget
  next hother =>
    cases hget
    rw [if_pos hother, Option.some_or]
    exact ⟨hnonempty, rfl⟩
  next hother =>
    rw [if_neg hother, Option.none_or]
    exact h other stored hget

/-! ## Getting a token -/

variable {policy : TokenPolicy} {c : Credentials} {store store' : TokenStore}

theorem ne_of_verdict {answer : Except Failure Response} {token : String}
    (h : Tokens.verdict answer = .ok token) : token ≠ "" := by
  obtain ⟨_, _, -, -, -, -, -, hnonempty⟩ := Tokens.verdict_eq_ok_iff.mp h
  exact hnonempty

/-- What an errand that got a token knows of it: it is the last one issued, or a later
one is in the store, issued since. -/
structure Carried (username : String) (store : TokenStore) (log : List Entry)
    (times : List Instant) (token : String) : Prop where
  nonempty : token ≠ ""
  known : last? username log = some token ∨
    ∃ later, store.get? username = some later ∧ later.issuedAt ∈ times

theorem entries_token {answer : Except Failure Response} (now : Instant) :
    entries username [.exchange (Tokens.request c) true answer, .read now] =
      [⟨username, Tokens.request c, answer⟩] :=
  rfl

theorem issued?_token (answer : Except Failure Response) (other : String) :
    issued? other ⟨username, Tokens.request c, answer⟩ =
      if other = username then (Tokens.verdict answer).toOption else none := by
  simp [issued?, Tokens.request, Request.post, eq_comm]

theorem right_token (answer : Except Failure Response) :
    Right log ⟨username, Tokens.request c, answer⟩ := by
  simp [Right, Tokens.request, Request.post]

structure Kept (username : String) (log : List Entry) (events : List Event)
    (store : TokenStore) : Prop where
  faithful : Faithful log (entries username events)
  consistent : Consistent store (log ++ entries username events)

theorem Kept.append {store₁ : TokenStore} (h : Kept username log events store₁)
    (h' : Kept username (log ++ entries username events) rest store) :
    Kept username log (events ++ rest) store := by
  constructor
  · rw [entries_append, faithful_append]
    exact ⟨h.faithful, h'.faithful⟩
  · rw [entries_append, ← List.append_assoc]
    exact h'.consistent

theorem Kept.of_entries (h : Kept username log rest store)
    (hentries : entries username events = entries username rest) :
    Kept username log events store := by
  constructor
  · rw [hentries]
    exact h.faithful
  · rw [hentries]
    exact h.consistent

theorem kept_of_silent (hsilent : entries username events = []) (h : Consistent store log) :
    Kept username log events store := by
  have hnil : Kept username log [] store := by
    refine ⟨trivial, ?_⟩
    rw [show entries username [] = [] from rfl, List.append_nil]
    exact h
  exact hnil.of_entries hsilent

theorem kept_of_idle {entry : Entry} (hentry : entries username events = [entry])
    (hright : Right log entry) (hidle : ∀ other, issued? other entry = none)
    (h : Consistent store log) : Kept username log events store := by
  constructor
  · rw [hentry]
    exact ⟨hright, trivial⟩
  · rw [hentry]
    exact consistent_of_idle hidle h

theorem kept_of_refreshed {token : Except Failure String}
    (h : Tokens.Refreshed c store events token store') (hstore : Consistent store log) :
    Kept c.username log events store' := by
  cases h with
  | @granted answer token now hverdict =>
      refine ⟨⟨right_token answer, trivial⟩, ?_⟩
      rw [entries_token]
      refine consistent_insert (ne_of_verdict hverdict) (fun other => ?_) hstore
      rw [issued?_token, hverdict]
      rfl
  | @rejected answer failure now hverdict hrejection =>
      have hidle (other : String) :
          issued? other ⟨c.username, Tokens.request c, answer⟩ = none := by
        rw [issued?_token, hverdict]
        exact ite_self _
      refine kept_of_idle (entries_token now) (right_token answer) hidle ?_
      intro other token hget
      cases hget
  | @failed sent answer failure hverdict hrejection hsent =>
      cases sent with
      | false => exact kept_of_silent rfl hstore
      | true =>
          have hidle (other : String) :
              issued? other ⟨c.username, Tokens.request c, answer⟩ = none := by
            rw [issued?_token, hverdict]
            exact ite_self _
          exact kept_of_idle rfl (right_token answer) hidle hstore

theorem carried_of_refreshed {token : String}
    (h : Tokens.Refreshed c store events (.ok token) store') :
    last? c.username (log ++ entries c.username events) = some token ∧ token ≠ "" ∧
      ∃ later, store'.get? c.username = some later ∧ later.issuedAt ∈ readings events := by
  generalize hresult : Except.ok token = result at h
  cases h with
  | @granted answer _ now hverdict =>
      cases hresult
      refine ⟨?_, ne_of_verdict hverdict, ⟨token, now⟩, ?_, List.mem_singleton_self now⟩
      · rw [last?_append, entries_token, last?_singleton, issued?_token, if_pos rfl,
          hverdict]
        rfl
      · rw [TokenStore.get?_insert, if_pos rfl]
  | rejected => cases hresult
  | failed => cases hresult

theorem entries_wait (held : Bool) :
    entries username (.wait held :: events) = entries username events :=
  rfl

theorem readings_wait (held : Bool) :
    readings (.wait held :: events) = readings events :=
  rfl

private theorem entries_of_refresh {first second : List Event}
    (hlook : Stage.Reads first) (hlook' : Stage.Reads second) :
    entries username (first ++ .wait true :: (second ++ rest)) = entries username rest := by
  rw [entries_append, entries_of_reads hlook, List.nil_append, entries_wait, entries_append,
    entries_of_reads hlook', List.nil_append]

theorem kept_of_acquired {result : Except Failure (Option String)}
    (h : Tokens.Acquired policy c store events result store')
    (hstore : Consistent store log) : Kept c.username log events store' := by
  cases h with
  | incomplete => exact kept_of_silent rfl hstore
  | settled _ hlook =>
      exact kept_of_silent (entries_of_reads (Stage.reads_of_looked hlook)) hstore
  | abandoned _ hlook =>
      refine kept_of_silent ?_ hstore
      rw [entries_append, entries_of_reads (Stage.reads_of_looked hlook)]
      rfl
  | settledLate _ hlook hlook' =>
      refine kept_of_silent ?_ hstore
      rw [entries_append, entries_of_reads (Stage.reads_of_looked hlook), entries_wait,
        entries_of_reads (Stage.reads_of_looked hlook')]
      rfl
  | refreshed _ hlook hlook' hrefresh =>
      exact (kept_of_refreshed hrefresh hstore).of_entries
        (entries_of_refresh (Stage.reads_of_looked hlook) (Stage.reads_of_looked hlook'))

theorem carried_of_looked {token : String}
    (h : Tokens.Looked policy c store events (some (some token)))
    (hstore : Consistent store log) :
    last? c.username (log ++ entries c.username events) = some token ∧ token ≠ "" ∧
      store.get? c.username ≠ none := by
  rw [entries_of_reads (Stage.reads_of_looked h), List.append_nil]
  generalize hsettled : some (some token) = settled at h
  cases h with
  | cached hcurrent =>
      cases hsettled
      generalize hvalue : some token = value at hcurrent
      cases hcurrent with
      | absent => cases hvalue
      | stale => cases hvalue
      | fresh hget =>
          cases hvalue
          obtain ⟨hnonempty, hlast⟩ := hstore _ _ hget
          exact ⟨hlast, hnonempty, by simp [hget]⟩
  | cooling => cases hsettled
  | unsettled => cases hsettled

/-- A token that is acquired is the last one issued; if it was not in the store, it is
there now, issued on the way. -/
theorem carried_of_acquired {token : String}
    (h : Tokens.Acquired policy c store events (.ok (some token)) store')
    (hstore : Consistent store log) :
    last? c.username (log ++ entries c.username events) = some token ∧ token ≠ "" ∧
      (store.get? c.username = none →
        ∃ later, store'.get? c.username = some later ∧ later.issuedAt ∈ readings events) := by
  generalize hresult : Except.ok (some token) = result at h
  cases h with
  | incomplete => cases hresult
  | settled _ hlook =>
      cases hresult
      obtain ⟨hlast, hnonempty, hget⟩ := carried_of_looked hlook hstore
      exact ⟨hlast, hnonempty, fun hnone => absurd hnone hget⟩
  | abandoned => cases hresult
  | settledLate _ hlook hlook' =>
      cases hresult
      obtain ⟨hlast, hnonempty, hget⟩ := carried_of_looked hlook' hstore
      refine ⟨?_, hnonempty, fun hnone => absurd hnone hget⟩
      rw [entries_append, entries_of_reads (Stage.reads_of_looked hlook), entries_wait,
        List.nil_append]
      exact hlast
  | @refreshed first second rest acquired _ _ hlook hlook' hrefresh =>
      cases acquired with
      | error failure => cases hresult
      | ok acquired =>
          cases hresult
          obtain ⟨hlast, hnonempty, later, hget, htime⟩ := carried_of_refreshed hrefresh
          rw [entries_of_refresh (Stage.reads_of_looked hlook)
            (Stage.reads_of_looked hlook')]
          refine ⟨hlast, hnonempty, fun _ => ⟨later, hget, ?_⟩⟩
          rw [readings_append, readings_wait, readings_append]
          simp [htime]

/-! ## Sending a request -/

section Send

variable {request renewed : Request} {token : String} {times : List Instant}
variable {retryAllowed : Bool} {result : Except Failure Response}

theorem right_of_renewed {answer : Except Failure Response}
    (hpath : request.path ≠ "token") (htoken : request.token = some token)
    (hbrief : Brief policy (times ++ readings events)) (hstore : Consistent store log)
    (hcarried : Carried c.username store log times token)
    (h : Transport.Renewed policy c request store events renewed) :
    Right log ⟨c.username, renewed, answer⟩ := by
  unfold Right
  dsimp only
  rw [if_neg (by rwa [Stage.path_of_renewed h])]
  cases h with
  | tokenless hnone =>
      rw [htoken] at hnone
      cases hnone
  | same _ hcurrent =>
      refine ⟨token, htoken, hcarried.nonempty, ?_⟩
      rcases hcarried.known with hlast | ⟨later, hget, htime⟩
      · exact hlast
      -- A later token would still be fresh, so it would have been put in.
      · generalize hvalue : none = value at hcurrent
        cases hcurrent with
        | absent hnone =>
            rw [hget] at hnone
            cases hnone
        | @stale stored now hget' hstale =>
            rw [hget] at hget'
            cases hget'
            have hfresh : now.since later.issuedAt < policy.lifetime :=
              (List.pairwise_append.mp hbrief).2.2 _ htime _ (List.mem_singleton_self now)
            have hold := TokenStore.isFresh_eq_false_iff.mp hstale
            omega
        | fresh => cases hvalue
  | renewed _ hcurrent =>
      generalize hvalue : some _ = value at hcurrent
      cases hcurrent with
      | absent => cases hvalue
      | stale => cases hvalue
      | fresh hget =>
          cases hvalue
          obtain ⟨hnonempty, hlast⟩ := hstore _ _ hget
          exact ⟨_, rfl, hnonempty, hlast⟩

theorem issued?_of_path {entry : Entry} (hpath : entry.request.path ≠ "token")
    (other : String) : issued? other entry = none :=
  if_neg fun h => hpath h.2

private theorem entries_of_attempt {sent : Bool} {answer : Except Failure Response}
    (hreads : Stage.Reads events) :
    entries username (events ++ [.exchange request sent answer]) =
      if sent then [⟨username, request, answer⟩] else [] := by
  rw [entries_append, entries_of_reads hreads]
  cases sent <;> rfl

theorem kept_of_attempt {sent : Bool} {answer : Except Failure Response}
    (hreads : Stage.Reads events) (hpath : request.path ≠ "token")
    (hright : Right log ⟨username, request, answer⟩) (hstore : Consistent store log) :
    Kept username log (events ++ [.exchange request sent answer]) store := by
  have hentries : entries username (events ++ [.exchange request sent answer]) =
      if sent then [⟨username, request, answer⟩] else [] := entries_of_attempt hreads
  cases sent with
  | true => exact kept_of_idle hentries hright (issued?_of_path hpath) hstore
  | false => exact kept_of_silent hentries hstore

theorem last?_of_attempt {sent : Bool} {answer : Except Failure Response}
    (hreads : Stage.Reads events) (hpath : request.path ≠ "token") :
    last? username (log ++ entries username (events ++ [.exchange request sent answer])) =
      last? username log := by
  rw [entries_of_attempt hreads, last?_append]
  cases sent with
  | true => rw [if_pos rfl, last?_singleton, issued?_of_path hpath, Option.none_or]
  | false => rfl

theorem kept_of_sent (hpath : request.path ≠ "token") (htoken : request.token = some token)
    (hbrief : Brief policy (times ++ readings events)) (hstore : Consistent store log)
    (hcarried : Carried c.username store log times token)
    (h : Transport.Sent policy retryAllowed c request store events result store') :
    Kept c.username log events store' := by
  have hfirst {first rest : List Event} {renewed : Request} {sent : Bool}
      {answer : Except Failure Response}
      (hevents : events = first ++ .exchange renewed sent answer :: rest)
      (h : Transport.Renewed policy c request store first renewed) {other : TokenStore}
      (hother : Consistent other log) :
      Kept c.username log (first ++ [.exchange renewed sent answer]) other := by
    rw [hevents, readings_append, ← List.append_assoc] at hbrief
    have hbrief := (List.pairwise_append.mp hbrief).1
    refine kept_of_attempt (Stage.reads_of_renewed h) ?_ ?_ hother
    · rwa [Stage.path_of_renewed h]
    · exact right_of_renewed hpath htoken hbrief hstore hcarried h
  cases h with
  | broken h => exact hfirst rfl h hstore
  | final h => exact hfirst rfl h hstore
  | tokenFailed h _ hacquire =>
      have hkept := hfirst rfl h (consistent_clear store)
      rw [List.append_cons]
      exact hkept.append (kept_of_acquired hacquire (consistent_clear store))
  | tokenless h _ hacquire =>
      have hkept := hfirst rfl h (consistent_clear store)
      rw [List.append_cons]
      exact hkept.append (kept_of_acquired hacquire (consistent_clear store))
  | @retried first renewed response rest fresh sent answer store' h _ hacquire hsent =>
      have hkept := hfirst rfl h (consistent_clear store)
      rw [List.append_cons]
      refine hkept.append ?_
      have hacquired := kept_of_acquired hacquire hkept.consistent
      have hnone : Stage.Reads [] := by simp [Stage.Reads]
      refine hacquired.append (kept_of_attempt hnone ?_ ?_ hacquired.consistent)
      · rwa [withToken_path, Stage.path_of_renewed h]
      · obtain ⟨hlast, hnonempty, -⟩ := carried_of_acquired hacquire hkept.consistent
        unfold Right
        dsimp only
        rw [withToken_path, Stage.path_of_renewed h, if_neg hpath]
        exact ⟨fresh, rfl, hnonempty, hlast⟩

theorem carried_of_sent {response : Response} (hpath : request.path ≠ "token")
    (hcarried : Carried c.username store log times token)
    (h : Transport.Sent policy retryAllowed c request store events (.ok response) store') :
    Carried c.username store' (log ++ entries c.username events) (times ++ readings events)
      token := by
  refine ⟨hcarried.nonempty, ?_⟩
  generalize hresult : Except.ok response = result at h
  cases h with
  | broken => cases hresult
  | @final first renewed answer h =>
      have hrenewed : renewed.path ≠ "token" := by rwa [Stage.path_of_renewed h]
      rw [last?_of_attempt (Stage.reads_of_renewed h) hrenewed]
      rcases hcarried.known with hlast | ⟨later, hget, htime⟩
      · exact .inl hlast
      · exact .inr ⟨later, hget, List.mem_append_left _ htime⟩
  | tokenFailed => cases hresult
  | tokenless => cases hresult
  | @retried first renewed answer rest fresh sent answer' store' h _ hacquire =>
      -- The store was emptied before, so the token of the second attempt is a new one.
      have hclear : Consistent store.clear log := consistent_clear store
      obtain ⟨-, -, hissued⟩ := carried_of_acquired hacquire hclear
      obtain ⟨later, hget, htime⟩ := hissued rfl
      refine .inr ⟨later, hget, List.mem_append_right _ ?_⟩
      rw [List.append_cons, readings_append, readings_append, readings_append]
      exact List.mem_append_right _ (List.mem_append_left _ htime)

end Send

/-! ## Errands -/

def Holds (username : String) (store : TokenStore) (log : List Entry)
    (times : List Instant) : Option String → Prop
  | none => True
  | some token => Carried username store log times token

/-- An operation that, begun with a token it may rely on, sends only what is right and,
if it does not fail, leaves a token to rely on. -/
structure Proper (policy : TokenPolicy) (c : Credentials) (before after : Option String)
    (op : Operation α) : Prop where
  kept : ∀ {store log times events result store'}, Consistent store log →
    Holds c.username store log times before → Brief policy (times ++ readings events) →
    op.Runs store events result store' → Kept c.username log events store'
  holds : ∀ {store log times events a store'}, Consistent store log →
    Holds c.username store log times before → Brief policy (times ++ readings events) →
    op.Runs store events (.ok a) store' →
    Holds c.username store' (log ++ entries c.username events) (times ++ readings events)
      after

section Proper

open Operation

variable {before after : Option String}

theorem proper_of_silent {op : Operation α}
    (h : ∀ {store events result store'}, op.Runs store events result store' →
      events = [] ∧ store' = store) : Proper policy c before before op where
  kept hstore _ _ hrun := by
    obtain ⟨rfl, rfl⟩ := h hrun
    exact kept_of_silent rfl hstore
  holds {store log times events a store'} _ hbefore _ hrun := by
    obtain ⟨rfl, rfl⟩ := h hrun
    rw [show entries c.username [] = [] from rfl, show readings [] = [] from rfl,
      List.append_nil, List.append_nil]
    exact hbefore

theorem proper_pure (a : α) : Proper policy c before before (pure a) :=
  proper_of_silent fun h => ⟨(runs_pure.mp h).1, (runs_pure.mp h).2.2⟩

theorem proper_throw (failure : Failure) :
    Proper policy c before before (throw failure : Operation α) :=
  proper_of_silent fun h => ⟨(runs_throw.mp h).1, (runs_throw.mp h).2.2⟩

theorem proper_ofExcept (result : Except Failure α) :
    Proper policy c before before (Operation.ofExcept result) :=
  proper_of_silent fun h => ⟨(runs_ofExcept.mp h).1, (runs_ofExcept.mp h).2.2⟩

theorem Proper.final {op : Operation α} (h : Proper policy c before after op) :
    Proper policy c before none op where
  kept := h.kept
  holds _ _ _ _ := trivial

private theorem brief_append {times : List Instant}
    (h : Brief policy (times ++ readings (events ++ rest))) :
    Brief policy (times ++ readings events) ∧
      Brief policy (times ++ readings events ++ readings rest) := by
  rw [readings_append, ← List.append_assoc] at h
  exact ⟨(List.pairwise_append.mp h).1, h⟩

theorem Proper.bind {op : Operation α} {f : α → Operation β} {between : Option String}
    (h : Proper policy c before between op)
    (hf : ∀ a, Proper policy c between after (f a)) :
    Proper policy c before after (op >>= f) where
  kept hstore hbefore hbrief hrun := by
    rw [runs_bind] at hrun
    obtain ⟨failure, hop, rfl⟩ | ⟨first, rest, a, store₁, rfl, hop, hrest⟩ := hrun
    · exact h.kept hstore hbefore hbrief hop
    · obtain ⟨hfirst, hbrief⟩ := brief_append hbrief
      have hkept := h.kept hstore hbefore hfirst hop
      exact hkept.append ((hf a).kept hkept.consistent (h.holds hstore hbefore hfirst hop)
        hbrief hrest)
  holds hstore hbefore hbrief hrun := by
    rw [runs_bind] at hrun
    obtain ⟨failure, -, hresult⟩ | ⟨first, rest, a, store₁, rfl, hop, hrest⟩ := hrun
    · cases hresult
    · obtain ⟨hfirst, hbrief⟩ := brief_append hbrief
      have hkept := h.kept hstore hbefore hfirst hop
      have hholds := (hf a).holds hkept.consistent (h.holds hstore hbefore hfirst hop)
        hbrief hrest
      rw [entries_append, readings_append, ← List.append_assoc, ← List.append_assoc]
      exact hholds

theorem Proper.outcome {op : Operation α} (h : Proper policy c before after op) :
    Proper policy c before none op.outcome where
  kept hstore hbefore hbrief hrun := by
    obtain ⟨result, hop, -⟩ := runs_outcome.mp hrun
    exact h.kept hstore hbefore hbrief hop
  holds _ _ _ _ := trivial

theorem proper_send {retryAllowed : Bool} {request : Request} {token : String}
    (hpath : request.path ≠ "token") (htoken : request.token = some token) :
    Proper policy c (some token) (some token)
      (Transport.send policy retryAllowed c request) where
  kept hstore hcarried hbrief hrun :=
    kept_of_sent hpath htoken hbrief hstore hcarried (Transport.send_path hrun)
  holds _ hcarried _ hrun := carried_of_sent hpath hcarried (Transport.send_path hrun)

theorem proper_acquire_bind {f : Option String → Operation β}
    (hsome : ∀ token, Proper policy c (some token) none (f (some token)))
    (hnone : Proper policy c none none (f none)) :
    Proper policy c none none (Tokens.acquire policy c >>= f) where
  kept {store log times events result store'} hstore _ hbrief hrun := by
    rw [runs_bind] at hrun
    obtain ⟨failure, hop, rfl⟩ | ⟨first, rest, token, store₁, rfl, hop, hrest⟩ := hrun
    · exact kept_of_acquired (Tokens.acquire_path hop) hstore
    · obtain ⟨-, hbrief⟩ := brief_append hbrief
      have hacquired := Tokens.acquire_path hop
      have hkept := kept_of_acquired hacquired hstore
      refine hkept.append ?_
      cases token with
      | none => exact hnone.kept hkept.consistent trivial hbrief hrest
      | some token =>
          obtain ⟨hlast, hnonempty, -⟩ := carried_of_acquired hacquired hstore
          exact (hsome token).kept hkept.consistent ⟨hnonempty, .inl hlast⟩ hbrief hrest
  holds _ _ _ _ := trivial

theorem proper_of_built {op : Operation α} (h : op.Built policy c before after) :
    Proper policy c before after op := by
  induction h with
  | pure a => exact proper_pure a
  | throw failure => exact proper_throw failure
  | ofExcept result => exact proper_ofExcept result
  | send retryAllowed request hpath htoken => exact proper_send hpath htoken
  | acquire _ _ hsome hnone => exact proper_acquire_bind hsome hnone
  | bind _ _ h hf => exact h.bind hf
  | outcome _ h => exact h.outcome
  | final _ h => exact h.final

end Proper

end Issued

end ProgramGuide
