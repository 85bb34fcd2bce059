import ProgramGuide.Proofs.Service.Attachment
import ProgramGuide.Proofs.Text.Percent

/-!
# Arguments in paths

What a caller passes on to the service in the path of a request stays in its place there:
the marks that part a path are those of the provider, and every argument is read back
from between them.
-/

namespace ProgramGuide

open Text

/-- The parts of a path between its `&` signs, each cut at its `=` signs and decoded. -/
def queryParts (path : String) : List (List (Option String)) :=
  (path.toList.splitOn '&').map fun part => (part.splitOn '=').map Percent.decode?

/-- The path is one query for a country and a postal code, and nothing else. -/
structure Queries (path country postalCode : String) : Prop where
  mark : path.toList.count '?' = 1
  joint : path.toList.count '&' = 1
  plain : ∀ c ∈ path.toList, c ≠ '/' ∧ c ≠ '#' ∧ c ≠ ' ' ∧ c.toNat < 128
  parts : queryParts path =
    [[some "headends?country", some country], [some "postalcode", some postalCode]]

/-- The path goes down to the lineup and no further. -/
structure LeadsTo (path id : String) : Prop where
  segment : ∃ segment, path.toList = "lineups/".toList ++ segment ∧
    (∀ c ∈ segment, c ≠ '/' ∧ c ≠ '?' ∧ c ≠ '#') ∧ Percent.decode? segment = some id

section Paths

variable {country postalCode country' postalCode' id id' : String}

theorem not_mem_encode (s : String) {c : Char} (h : Percent.isPlain c = false) :
    c ∉ (Percent.encode s).toList := by
  intro hc
  rw [Percent.isPlain_of_mem_encode hc] at h
  cases h

theorem toList_headendsPath :
    (Provider.headendsPath country postalCode).toList =
      ("headends?country".toList ++ '=' :: (Percent.encode country).toList) ++
        '&' :: ("postalcode".toList ++ '=' :: (Percent.encode postalCode).toList) := by
  unfold Provider.headendsPath
  generalize Percent.encode country = country
  generalize Percent.encode postalCode = postalCode
  simp

theorem parts_headendsPath :
    queryParts (Provider.headendsPath country postalCode) =
      [[some "headends?country", some country], [some "postalcode", some postalCode]] := by
  have hequal (s : String) : '=' ∉ (Percent.encode s).toList := not_mem_encode s rfl
  have hjoint (s : String) : '&' ∉ (Percent.encode s).toList := not_mem_encode s rfl
  have hfirst : '&' ∉ "headends?country".toList ++ '=' :: (Percent.encode country).toList := by
    simp [hjoint]
  have hsecond : '&' ∉ "postalcode".toList ++ '=' :: (Percent.encode postalCode).toList := by
    simp [hjoint]
  have hcountry : Percent.decode? "headends?country".toList = some "headends?country" :=
    Percent.decode?_of_not_mem (by decide)
  have hpostalCode : Percent.decode? "postalcode".toList = some "postalcode" :=
    Percent.decode?_of_not_mem (by decide)
  rw [queryParts, toList_headendsPath, List.splitOn_append_cons_self_of_not_mem hfirst,
    List.splitOn_eq_singleton hsecond, List.map_cons, List.map_singleton,
    List.splitOn_append_cons_self_of_not_mem (by decide),
    List.splitOn_append_cons_self_of_not_mem (by decide),
    List.splitOn_eq_singleton (hequal country), List.splitOn_eq_singleton (hequal postalCode)]
  simp only [List.map_cons, List.map_nil, hcountry, hpostalCode, Percent.decode?_encode]

theorem count_headendsPath {c : Char} (h : Percent.isPlain c = false) :
    (Provider.headendsPath country postalCode).toList.count c =
      ("headends?country".toList ++ '=' :: '&' :: "postalcode".toList ++ ['=']).count c := by
  have hargument (s : String) : (Percent.encode s).toList.count c = 0 :=
    List.count_eq_zero_of_not_mem (not_mem_encode s h)
  rw [toList_headendsPath]
  simp only [List.count_append, List.count_cons, hargument, List.count_nil]
  omega

theorem queries_headendsPath (country postalCode : String) :
    Queries (Provider.headendsPath country postalCode) country postalCode where
  mark := by
    rw [count_headendsPath rfl]
    rfl
  joint := by
    rw [count_headendsPath rfl]
    rfl
  plain := by
    have hargument {s : String} {c : Char} (hc : c ∈ (Percent.encode s).toList) :
        c ≠ '/' ∧ c ≠ '#' ∧ c ≠ ' ' ∧ c.toNat < 128 := by
      have hplain := Percent.isPlain_of_mem_encode hc
      refine ⟨?_, ?_, ?_, Percent.toNat_lt_of_isPlain hplain⟩ <;>
        rintro rfl <;> cases hplain
    have hname (cs : List Char)
        (h : cs.all (fun c => c ≠ '/' ∧ c ≠ '#' ∧ c ≠ ' ' ∧ c.toNat < 128) = true) :
        ∀ c ∈ cs, c ≠ '/' ∧ c ≠ '#' ∧ c ≠ ' ' ∧ c.toNat < 128 :=
      fun c hc => of_decide_eq_true (List.all_eq_true.mp h c hc)
    rw [toList_headendsPath]
    simp only [List.forall_mem_append, List.forall_mem_cons]
    refine ⟨⟨hname _ (by decide), by decide, ?_⟩, by decide, hname _ (by decide), by decide, ?_⟩
    · exact fun c hc => hargument hc
    · exact fun c hc => hargument hc
  parts := parts_headendsPath

theorem leadsTo_lineupPath (id : String) : LeadsTo (Provider.lineupPath id) id where
  segment := by
    refine ⟨(Percent.encode id).toList, ?_, ?_, Percent.decode?_encode id⟩
    · exact String.toList_append
    · intro c hc
      have hplain := Percent.isPlain_of_mem_encode hc
      refine ⟨?_, ?_, ?_⟩ <;> rintro rfl <;> cases hplain

theorem Queries.arguments_eq {path : String} (h : Queries path country postalCode)
    (h' : Queries path country' postalCode') :
    country = country' ∧ postalCode = postalCode' := by
  simpa using h.parts.symm.trans h'.parts

theorem LeadsTo.id_eq {path : String} (h : LeadsTo path id) (h' : LeadsTo path id') :
    id = id' := by
  obtain ⟨segment, hpath, -, hid⟩ := h.segment
  obtain ⟨segment', hpath', -, hid'⟩ := h'.segment
  obtain rfl : segment = segment' := List.append_cancel_left (hpath.symm.trans hpath')
  exact Option.some.inj (hid.symm.trans hid')

theorem headendsPath_inj :
    Provider.headendsPath country postalCode = Provider.headendsPath country' postalCode' ↔
      country = country' ∧ postalCode = postalCode' := by
  constructor
  · intro h
    have hqueries := queries_headendsPath country postalCode
    rw [h] at hqueries
    exact hqueries.arguments_eq (queries_headendsPath country' postalCode')
  · rintro ⟨rfl, rfl⟩
    rfl

theorem lineupPath_inj : Provider.lineupPath id = Provider.lineupPath id' ↔ id = id' := by
  constructor
  · intro h
    have hleads := leadsTo_lineupPath id
    rw [h] at hleads
    exact hleads.id_eq (leadsTo_lineupPath id')
  · exact congrArg Provider.lineupPath

end Paths

/-! ## Requests -/

/-- Nothing is handed over but requests for a token and attempts at one request, and one
of these where there is an answer to show. -/
structure Seeks (c : Credentials) (request : Request) (sent : List Exchange)
    (answered : Prop) : Prop where
  requests : ∀ exchange ∈ sent,
    exchange.request = Tokens.request c ∨ exchange.Attempts request
  attempted : answered → ∃ exchange ∈ sent, exchange.Attempts request

namespace Seeks

open Operation Course Attachment

variable {provider : Provider} {account : Account} {store store' : TokenStore}
variable {events : List Event} {c : Credentials} {request : Request}
variable {sent opening : List Exchange}

theorem of_opening (h : Opening c sent) : Seeks c request sent False where
  requests _ hsent := .inl (request_of_opening h hsent)
  attempted := False.elim

theorem of_round {outcome : Option Response} (hopening : Opening c opening)
    (h : Round c request sent outcome) :
    Seeks c request (opening ++ sent) (outcome.isSome = true) where
  requests exchange hsent := by
    obtain hsent | hsent := List.mem_append.mp hsent
    · exact .inl (request_of_opening hopening hsent)
    · exact (h.attempts_or_token hsent).symm
  attempted hanswered := by
    cases h with
    | unsent => cases hanswered
    | once hfirst => exact ⟨_, by simp, hfirst⟩
    | renewing => cases hanswered
    | twice hfirst => exact ⟨_, by simp, hfirst⟩

theorem mono {answered answered' : Prop} (h : Seeks c request sent answered)
    (hanswered : answered' → answered) : Seeks c request sent answered' :=
  ⟨h.requests, fun h' => h.attempted (hanswered h')⟩

theorem of_channels {result : Except Failure (List Channel)}
    (h : (provider.channels account).Runs store events result store') :
    Seeks account.credentials
      (.get (Provider.lineupPath (Text.trim account.listingsId))) (exchanges events)
      (∃ channels, result = .ok channels) := by
  unfold Provider.channels at h
  rw [runs_ofExcept_bind] at h
  obtain ⟨failure, -, rfl, rfl, -⟩ | ⟨id, hid, h⟩ := h
  · exact (of_opening .settled).mono (by simp)
  obtain rfl := requireListingsId_eq_ok hid
  rw [runs_bind] at h
  obtain ⟨failure, htoken, rfl⟩ | ⟨first, rest, token, store₁, rfl, htoken, h⟩ := h
  · exact (of_opening (opening_of_requireToken htoken)).mono (by simp)
  have hopening := opening_of_requireToken htoken
  rw [Listing.runs_payload] at h
  obtain ⟨outcome, hsend, rfl⟩ := h
  rw [exchanges_append]
  refine (of_round hopening (round_of_send hsend)).mono ?_
  rintro ⟨channels, hchannels⟩
  cases outcome with
  | error => cases hchannels
  | ok => rfl

theorem of_headends {country postalCode token : String}
    {result : Except Failure (List LineupSummary)} (hopening : Opening account.credentials opening)
    (h : (provider.headends account country postalCode token).Runs store events result
      store') :
    Seeks account.credentials (.get (Provider.headendsPath country postalCode))
      (opening ++ exchanges events) (∃ lineups, result = .ok lineups) := by
  unfold Provider.headends at h
  rw [Listing.runs_payload] at h
  obtain ⟨outcome, hsend, rfl⟩ := h
  refine (of_round hopening (round_of_send hsend)).mono ?_
  rintro ⟨lineups, hlineups⟩
  cases outcome with
  | error => cases hlineups
  | ok => rfl

theorem of_lineups {country postalCode : String}
    {result : Except Failure (List LineupSummary)}
    (h : (provider.lineups account country postalCode).Runs store events result store') :
    Seeks account.credentials (.get (Provider.headendsPath country postalCode))
      (exchanges events) (∃ lineups, result = .ok lineups ∧ lineups ≠ []) := by
  unfold Provider.lineups at h
  rw [runs_bind] at h
  obtain ⟨failure, hacquire, rfl⟩ | ⟨first, rest, token, store₁, rfl, hacquire, h⟩ := h
  · exact (of_opening (opening_of_acquired (Tokens.acquire_path hacquire))).mono (by simp)
  have hopening := opening_of_acquired (Tokens.acquire_path hacquire)
  rw [exchanges_append]
  cases token with
  | none =>
      obtain ⟨rfl, rfl, -⟩ := runs_pure.mp h
      rw [exchanges_nil, List.append_nil]
      exact (of_opening hopening).mono (by simp)
  | some token =>
      dsimp only at h
      rw [runs_outcome_bind] at h
      obtain ⟨second, rest, outcome, store₂, rfl, hheadends, h⟩ := h
      have hseeks := of_headends hopening hheadends
      rw [exchanges_append]
      cases outcome with
      | ok lineups =>
          obtain ⟨rfl, rfl, -⟩ := runs_pure.mp h
          rw [exchanges_nil, List.append_nil]
          exact hseeks.mono fun _ => ⟨lineups, rfl⟩
      | error failure =>
          -- What went wrong is shown as a failure or as no lineups at all.
          have hrest : rest = [] ∧ ∀ lineups, result = .ok lineups → lineups = [] := by
            split at h
            next hlineups => cases hlineups
            next =>
              obtain ⟨rfl, rfl, -⟩ := runs_throw.mp h
              exact ⟨rfl, by simp⟩
            next =>
              obtain ⟨rfl, rfl, -⟩ := runs_pure.mp h
              exact ⟨rfl, fun lineups hlineups => (Except.ok.inj hlineups).symm⟩
          rw [hrest.1, exchanges_nil, List.append_nil]
          refine hseeks.mono ?_
          rintro ⟨lineups, hlineups, hne⟩
          exact absurd (hrest.2 lineups hlineups) hne

theorem of_addLineup {result : Except Failure Unit}
    (h : (provider.addLineup account).Runs store events result store') :
    Seeks account.credentials
      (.put (Provider.lineupPath (Text.trim account.listingsId))) (exchanges events)
      (result = .ok ()) where
  requests _ hsent := request_of_added (added_of_addLineup h) hsent
  attempted hanswered := by
    have hadded := added_of_addLineup h
    rw [hanswered] at hadded
    generalize exchanges events = sent at hadded ⊢
    cases hadded with
    | attached _ hput => exact ⟨_, by simp, hput⟩

theorem also {answered equipped : Prop} (h : Seeks c request sent answered)
    (hequipped : equipped → ∃ exchange ∈ sent, exchange.Attempts request) :
    Seeks c request sent (answered ∨ equipped) :=
  ⟨h.requests, fun hcause => hcause.elim h.attempted hequipped⟩

end Seeks

/-! ## Attempts that must be made -/

/-- There is a token for the account to begin with, and nothing is cancelled. -/
structure Equipped (provider : Provider) (account : Account) (store : TokenStore) (o : Outside)
    (events : List Event) : Prop where
  token : ∃ token, ((Tokens.acquire provider.policy account.credentials).play store o).result =
    .ok (some token)
  uncancelled : Uncancelled events

namespace Equipped

open Operation

variable {provider : Provider} {account : Account} {store store' : TokenStore} {o : Outside}

theorem attempted_of_send {events : List Event} {policy : TokenPolicy} {retryAllowed : Bool}
    {c : Credentials} {request : Request} {token : String} {result : Except Failure Response}
    (h : (Transport.send policy retryAllowed c (request.withToken token)).Runs store events
      result store') (hevents : Uncancelled events) :
    ∃ exchange ∈ exchanges events, exchange.Attempts request := by
  obtain ⟨exchange, hmem, token, hattempt⟩ :=
    Transport.attempted_of_sent (Transport.send_path h) hevents
  exact ⟨exchange, hmem, token, hattempt⟩

/-- An attempt at the end of a play is one of the play. -/
theorem attempted_append {first rest : List Event} {request : Request}
    (h : ∃ exchange ∈ exchanges rest, exchange.Attempts request) :
    ∃ exchange ∈ exchanges (first ++ rest), exchange.Attempts request := by
  obtain ⟨exchange, hmem, hattempt⟩ := h
  exact ⟨exchange, by simp [hmem], hattempt⟩

theorem play_requireToken {refusal : Refusal} {token : String}
    (h : ((Tokens.acquire provider.policy account.credentials).play store o).result =
      .ok (some token)) :
    ((provider.requireToken account refusal).play store o).result = .ok token := by
  unfold Provider.requireToken
  rw [play_bind]
  simp only [h]
  rfl

theorem attempted_of_lineups {country postalCode : String}
    (h : Equipped provider account store o
      ((provider.lineups account country postalCode).play store o).events) :
    ∃ exchange ∈ exchanges ((provider.lineups account country postalCode).play store o).events,
      exchange.Attempts (.get (Provider.headendsPath country postalCode)) := by
  obtain ⟨⟨token, htoken⟩, hevents⟩ := h
  unfold Provider.lineups at hevents ⊢
  obtain ⟨rest, hplayed, hrest⟩ := play_bind_runs htoken
  rw [hplayed] at hevents ⊢
  have hrestEvents := (Stage.uncancelled_append.mp hevents).2
  dsimp only at hrest
  rw [runs_outcome_bind] at hrest
  obtain ⟨second, last, outcome, store₁, rfl, hheadends, -⟩ := hrest
  unfold Provider.headends at hheadends
  rw [Listing.runs_payload] at hheadends
  obtain ⟨answer, hsend, -⟩ := hheadends
  obtain ⟨exchange, hmem, hattempt⟩ :=
    attempted_of_send hsend (Stage.uncancelled_append.mp hrestEvents).1
  exact ⟨exchange, by simp [hmem], hattempt⟩

theorem requireListingsId_of_ne (hid : Text.trim account.listingsId ≠ "") :
    Provider.requireListingsId account = .ok (Text.trim account.listingsId) := by
  simp [Provider.requireListingsId, hid]

theorem attempted_of_channels (hid : Text.trim account.listingsId ≠ "")
    (h : Equipped provider account store o
      ((provider.channels account).play store o).events) :
    ∃ exchange ∈ exchanges ((provider.channels account).play store o).events,
      exchange.Attempts (.get (Provider.lineupPath (Text.trim account.listingsId))) := by
  obtain ⟨⟨token, htoken⟩, hevents⟩ := h
  unfold Provider.channels at hevents ⊢
  rw [requireListingsId_of_ne hid] at hevents ⊢
  rw [play_ofExcept_ok_bind] at hevents ⊢
  obtain ⟨rest, hplayed, hrest⟩ := play_bind_runs (play_requireToken htoken)
  rw [hplayed] at hevents ⊢
  rw [Listing.runs_payload] at hrest
  obtain ⟨outcome, hsend, -⟩ := hrest
  exact attempted_append (attempted_of_send hsend (Stage.uncancelled_append.mp hevents).2)

theorem attempted_of_addLineup (hid : Text.trim account.listingsId ≠ "")
    (h : Equipped provider account store o
      ((provider.addLineup account).play store o).events) :
    ∃ exchange ∈ exchanges ((provider.addLineup account).play store o).events,
      exchange.Attempts (.put (Provider.lineupPath (Text.trim account.listingsId))) := by
  obtain ⟨⟨token, htoken⟩, hevents⟩ := h
  unfold Provider.addLineup at hevents ⊢
  obtain ⟨rest, hplayed, hrest⟩ := play_bind_runs (play_requireToken htoken)
  rw [hplayed] at hevents ⊢
  have hrestEvents := (Stage.uncancelled_append.mp hevents).2
  rw [requireListingsId_of_ne hid, runs_ofExcept_bind] at hrest
  obtain ⟨_, hfailure, -⟩ | ⟨id, hok, hrest⟩ := hrest
  · cases hfailure
  cases hok
  rw [runs_bind] at hrest
  obtain ⟨failure, hsend, -⟩ | ⟨second, last, response, store₁, rfl, hsend, -⟩ := hrest
  · exact attempted_append (attempted_of_send hsend hrestEvents)
  · obtain ⟨exchange, hmem, hattempt⟩ :=
      attempted_of_send hsend (Stage.uncancelled_append.mp hrestEvents).1
    exact ⟨exchange, by simp [hmem], hattempt⟩

end Equipped

open Seeks Equipped in
/-- Country and postal code, and the id of a lineup, are asked for in one place of a path
each, from which they are read back as they were, so paths differ when the arguments do.
Every answer that is shown comes from there, and with a token there is always a request. -/
theorem Provider.arguments_in_place (provider : Provider) (account : Account)
    (store : TokenStore) (o : Outside) :
    (∀ country postalCode,
      let played := (provider.lineups account country postalCode).play store o
      Seeks account.credentials (.get (headendsPath country postalCode))
          (exchanges played.events)
          ((∃ lineups, played.result = .ok lineups ∧ lineups ≠ []) ∨
            Equipped provider account store o played.events) ∧
        Queries (headendsPath country postalCode) country postalCode) ∧
    (let id := Text.trim account.listingsId
      let shown := (provider.channels account).play store o
      let added := (provider.addLineup account).play store o
      Seeks account.credentials (.get (lineupPath id)) (exchanges shown.events)
          ((∃ channels, shown.result = .ok channels) ∨
            id ≠ "" ∧ Equipped provider account store o shown.events) ∧
        Seeks account.credentials (.put (lineupPath id)) (exchanges added.events)
          (added.result = .ok () ∨ id ≠ "" ∧ Equipped provider account store o added.events) ∧
        LeadsTo (lineupPath id) id) ∧
    (∀ country postalCode country' postalCode',
      headendsPath country postalCode = headendsPath country' postalCode' ↔
        country = country' ∧ postalCode = postalCode') ∧
    ∀ id id', lineupPath id = lineupPath id' ↔ id = id' := by
  refine ⟨fun country postalCode => ?_, ?_, fun _ _ _ _ => headendsPath_inj,
    fun _ _ => lineupPath_inj⟩
  · have hruns := Operation.play_runs (provider.lineups account country postalCode) store o
    exact ⟨(of_lineups hruns).also attempted_of_lineups,
      queries_headendsPath country postalCode⟩
  · have hshown := Operation.play_runs (provider.channels account) store o
    have hadded := Operation.play_runs (provider.addLineup account) store o
    exact ⟨(of_channels hshown).also fun h => attempted_of_channels h.1 h.2,
      (of_addLineup hadded).also fun h => attempted_of_addLineup h.1 h.2,
      leadsTo_lineupPath _⟩

open Listing in
/-- A country that looks like the rest of a query is a country all the same. -/
example :
    let played := (plainProvider.lineups viewerAccount "US&postalcode=1" "é/?").play .empty
      (answering [(1, "\x7b\"message\":\"OK\",\"token\":\"tok\"\x7d"), (4, "[]")])
    (exchanges played.events).map (·.request.path) =
      ["token", "headends?country=US%26postalcode%3D1&postalcode=%C3%A9%2F%3F"] := by
  decide +kernel

end ProgramGuide
