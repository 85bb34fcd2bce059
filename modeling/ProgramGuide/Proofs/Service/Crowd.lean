import ProgramGuide.Proofs.Service.Refresh

/-!
# Refreshing in a crowd

Callers who come without a token, however many, share the one that is asked for first.
-/

namespace ProgramGuide

namespace Refresh

variable {policy : TokenPolicy} {pool pool' : Pool} {scene : Scene}
variable {trace : List Happening} {happening : Happening} {user : String}

/-! ## How far they have come -/

/-- A token that has been stored is found fresh at a later reading of the clock. -/
def Lasts (policy : TokenPolicy) (user : String) (earlier later : Happening) : Prop :=
  ∀ token ∈ earlier.stored? user, ∀ now ∈ later.read?,
    now.since token.issuedAt < policy.lifetime

instance : DecidableRel (Lasts policy user) := fun earlier later =>
  inferInstanceAs (Decidable (∀ token ∈ earlier.stored? user, ∀ now ∈ later.read?,
    now.since token.issuedAt < policy.lifetime))

/-- How far callers have come who have found no token at first. -/
inductive Phase where
  | unasked
  | asked
  | granted (value : String)
  | kept (token : IssuedToken)

namespace Phase

def token? : Phase → Option IssuedToken
  | kept token => some token
  | _ => none

/-- Whether some caller is between the request and the store. -/
def busy : Phase → Bool
  | asked => true
  | granted _ => true
  | _ => false

inductive Moves (c : Credentials) : Phase → Deed → Phase → Prop
  | stay {deed} (phase) (h : deed.quiet = true) : Moves c phase deed phase
  | ask : Moves c unasked (.asked (Tokens.request c)) asked
  | hear {answer value} (h : Tokens.verdict answer = .ok value) :
      Moves c asked (.heard (Tokens.request c) answer) (granted value)
  | keep (value now store) :
      Moves c (granted value) (.amended store (store.insert c.username ⟨value, now⟩))
        (kept ⟨value, now⟩)

/-- What the store holds and what has been asked and heard in a phase. -/
def Shows (user : String) (start : TokenStore) (trace : List Happening)
    (store : TokenStore) : Phase → Prop
  | unasked =>
      store = start ∧ trace.filterMap Happening.asked? = [] ∧
        trace.filterMap Happening.heard? = []
  | asked =>
      store = start ∧
        (∃ c : Credentials, c.username = user ∧
          trace.filterMap Happening.asked? = [Tokens.request c]) ∧
        trace.filterMap Happening.heard? = []
  | granted value =>
      store = start ∧
        (∃ c : Credentials, c.username = user ∧
          trace.filterMap Happening.asked? = [Tokens.request c]) ∧
        ∃ answer, trace.filterMap Happening.heard? = [answer] ∧
          Tokens.verdict answer = .ok value
  | kept token =>
      store.get? user = some token ∧ store.lastRejection = start.lastRejection ∧
        (∃ c : Credentials, c.username = user ∧
          trace.filterMap Happening.asked? = [Tokens.request c]) ∧
        (∃ answer, trace.filterMap Happening.heard? = [answer] ∧
          Tokens.verdict answer = .ok token.value) ∧
        ∃ i before after, .did i (.amended before after) ∈ trace ∧
          after.get? user = some token

end Phase

/-- Where a caller may stand in a phase. -/
inductive Stands (last : Option Int) : Phase → Tokens.Point → Prop
  | tokens (phase) : Stands last phase (.tokens false)
  | rejection (phase) : Stands last phase (.rejection false)
  | cooldown {since} (phase) (h : last = some since) : Stands last phase (.cooldown false since)
  | queue (phase) : Stands last phase .queue
  | tokensUnasked : Stands last .unasked (.tokens true)
  | rejectionUnasked : Stands last .unasked (.rejection true)
  | cooldownUnasked {since} (h : last = some since) : Stands last .unasked (.cooldown true since)
  | ask : Stands last .unasked (.ask false)
  | asked : Stands last .asked (.ask true)
  | stamp (value) : Stands last (.granted value) (.stamp value)
  | keep (value now) : Stands last (.granted value) (.keep ⟨value, now⟩)
  | tokensKept (token : IssuedToken) : Stands last (.kept token) (.tokens true)
  | age (held) (token : IssuedToken) : Stands last (.kept token) (.age held token)
  | release (token : IssuedToken) : Stands last (.kept token) (.release (.ok (some token.value)))

/-- What a caller finds in a phase when it does a deed. -/
structure Finds (policy : TokenPolicy) (user : String) (last : Option Int) (phase : Phase)
    (deed : Deed) : Prop where
  looked : ∀ store, deed = .looked store →
    store.get? user = phase.token? ∧ store.lastRejection = last
  warm : ∀ now since, deed = .read now → last = some since →
    TokenStore.coolingDown policy since now = false
  fresh : ∀ now token, deed = .read now → phase = .kept token →
    TokenStore.isFresh policy token now = true
  granted : ∀ request answer, deed = .heard request answer → phase = .asked →
    ∃ value, Tokens.verdict answer = .ok value
  locked : deed = .locked → phase.busy = false
  patient : deed.givesUp = false

theorem Stands.next {last : Option Int} {phase : Phase} {c : Credentials}
    {p p' : Tokens.Point} {deed : Deed} (h : Stands last phase p)
    (hnext : p.Next policy c deed p') (hfinds : Finds policy c.username last phase deed) :
    ∃ phase', phase.Moves c deed phase' ∧ Stands last phase' p' := by
  have hstay {deed : Deed} {p' : Tokens.Point} (hquiet : deed.quiet = true)
      (hp' : Stands last phase p') :
      ∃ phase', phase.Moves c deed phase' ∧ Stands last phase' p' :=
    ⟨phase, .stay phase hquiet, hp'⟩
  cases hnext with
  | absent held hnone =>
      refine hstay rfl ?_
      cases h with
      | tokens => exact .rejection phase
      | tokensUnasked => exact .rejectionUnasked
      | tokensKept =>
          rw [(hfinds.looked _ rfl).1] at hnone
          cases hnone
  | @present store token held hsome =>
      rw [(hfinds.looked _ rfl).1] at hsome
      refine hstay rfl ?_
      cases phase with
      | kept token =>
          cases hsome
          exact .age held token
      | _ => cases hsome
  | @stale token now held hstale =>
      cases h with
      | age =>
          rw [hfinds.fresh _ token rfl rfl] at hstale
          cases hstale
  | @fresh token now =>
      cases h with
      | age => exact hstay rfl (.release token)
  | since held hsince =>
      refine hstay rfl ?_
      rw [(hfinds.looked _ rfl).2] at hsince
      cases h with
      | rejection => exact .cooldown phase hsince
      | rejectionUnasked => exact .cooldownUnasked hsince
  | cooling hcool =>
      cases h with
      | cooldownUnasked hlast =>
          rw [hfinds.warm _ _ rfl hlast] at hcool
          cases hcool
  | never => exact hstay rfl (.queue phase)
  | warm => exact hstay rfl (.queue phase)
  | enter =>
      refine hstay rfl ?_
      cases phase with
      | unasked => exact .tokensUnasked
      | kept token => exact .tokensKept token
      | _ => cases hfinds.locked rfl
  | neverLocked =>
      cases h
      exact hstay rfl .ask
  | warmLocked =>
      cases h
      exact hstay rfl .ask
  | ask =>
      cases h
      exact ⟨.asked, .ask, .asked⟩
  | granted hverdict =>
      cases h
      exact ⟨.granted _, .hear hverdict, .stamp _⟩
  | rejected hverdict =>
      cases h
      obtain ⟨value, hvalue⟩ := hfinds.granted _ _ rfl rfl
      rw [hvalue] at hverdict
      cases hverdict
  | failed hverdict =>
      cases h
      obtain ⟨value, hvalue⟩ := hfinds.granted _ _ rfl rfl
      rw [hvalue] at hverdict
      cases hverdict
  | abandon => cases hfinds.patient
  | stamp value now =>
      cases h
      exact hstay rfl (.keep value now)
  | keep token store =>
      cases h with
      | keep value now => exact ⟨.kept ⟨value, now⟩, .keep value now store, .release ⟨value, now⟩⟩
  | drop => cases h
  | mark => cases h
  | reject => cases h

theorem Stands.ends {last : Option Int} {phase : Phase} {p : Tokens.Point} {deed : Deed}
    {result : Except Failure (Option String)} (h : Stands last phase p)
    (hends : p.Ends policy deed result) (hfinds : Finds policy user last phase deed) :
    ∃ token, phase = .kept token ∧ result = .ok (some token.value) := by
  cases hends with
  | @fresh token now =>
      cases h with
      | age => exact ⟨token, rfl, rfl⟩
  | cooling hcool =>
      cases h with
      | cooldown _ hlast =>
          rw [hfinds.warm _ _ rfl hlast] at hcool
          cases hcool
  | leave => cases hfinds.patient
  | release =>
      cases h with
      | release token => exact ⟨token, rfl, rfl⟩

/-- Who is not under the lock may stand there in every phase until a token is kept. -/
theorem Stands.mono {last : Option Int} {phase phase' : Phase} {p : Tokens.Point}
    (h : Stands last phase p) (hphase : phase.token? = none) (hholds : p.holds = false) :
    Stands last phase' p := by
  cases h with
  | tokens => exact .tokens phase'
  | rejection => exact .rejection phase'
  | cooldown _ h => exact .cooldown phase' h
  | queue => exact .queue phase'
  | age => cases hphase
  | _ => cases hholds

def Fits (user : String) (last : Option Int) (phase : Phase) : Member → Prop
  | .acquire c p => c.username = user ∧ Stands last phase p
  | .ended _ result => ∃ token, phase = .kept token ∧ result = .ok (.token (some token.value))
  | _ => False

theorem Fits.mono {last : Option Int} {phase phase' : Phase} {m : Member}
    (h : Fits user last phase m) (hphase : phase.token? = none) (hholds : m.holds = false) :
    Fits user last phase' m := by
  cases m with
  | acquire c p => exact ⟨h.1, h.2.mono hphase hholds⟩
  | ended call result =>
      obtain ⟨token, rfl, -⟩ := h
      cases hphase
  | _ => exact h

/-- Calls for one user's token, all with complete credentials.  None of them gives up, no
clock reading shows a cool-down, the tokens that are stored last, and the first request
for one is granted. -/
structure Calm (policy : TokenPolicy) (user : String) (scene : Scene)
    (trace : List Happening) : Prop where
  calls : ∀ call, .begun call ∈ trace →
    ∃ c, call = .acquire c ∧ c.username = user ∧ c.isComplete = true
  patient : ∀ i deed, .did i deed ∈ trace → deed.givesUp = false
  warm : ∀ i now since, .did i (.read now) ∈ trace →
    scene.store.lastRejection = some since →
    TokenStore.coolingDown policy since now = false
  lasting : trace.Pairwise (Lasts policy user)
  granted : ∀ answer, (trace.filterMap Happening.heard?).head? = some answer →
    ∃ value, Tokens.verdict answer = .ok value

theorem Calm.of_append {rest : List Happening} (h : Calm policy user scene (trace ++ rest)) :
    Calm policy user scene trace where
  calls call hcall := h.calls call (List.mem_append_left _ hcall)
  patient i deed hi := h.patient i deed (List.mem_append_left _ hi)
  warm i now since hi := h.warm i now since (List.mem_append_left _ hi)
  lasting := (List.pairwise_append.mp h.lasting).1
  granted answer hanswer := by
    refine h.granted answer ?_
    rw [List.filterMap_append, List.head?_append, hanswer]
    rfl

structure Shared (user : String) (start : TokenStore) (trace : List Happening)
    (phase : Phase) (pool : Pool) : Prop where
  shows : phase.Shows user start trace pool.scene.store
  busy : phase.busy = true → pool.holder ≠ none
  members : ∀ m ∈ pool.members, Fits user start.lastRejection phase m

theorem Phase.Shows.concat {phase : Phase} {start store : TokenStore}
    (h : phase.Shows user start trace store) (hasked : happening.asked? = none)
    (hheard : happening.heard? = none) :
    phase.Shows user start (trace ++ [happening]) store := by
  have hasked' : (trace ++ [happening]).filterMap Happening.asked? =
      trace.filterMap Happening.asked? := by simp [List.filterMap_append, hasked]
  have hheard' : (trace ++ [happening]).filterMap Happening.heard? =
      trace.filterMap Happening.heard? := by simp [List.filterMap_append, hheard]
  cases phase with
  | kept token =>
      obtain ⟨hget, hlast, hrequest, hanswer, i, before, after, hkept, hafter⟩ := h
      unfold Shows
      rw [hasked', hheard']
      exact ⟨hget, hlast, hrequest, hanswer, i, before, after, List.mem_append_left _ hkept,
        hafter⟩
  | _ =>
      unfold Shows at h ⊢
      rwa [hasked', hheard']

theorem Phase.Shows.quiet {phase : Phase} {start : TokenStore} {i : Nat} {deed : Deed}
    (h : phase.Shows user start trace scene.store) (hquiet : deed.quiet = true) :
    phase.Shows user start (trace ++ [.did i deed]) (deed.scene scene).store := by
  rw [Deed.scene_of_quiet hquiet]
  exact h.concat (Happening.asked?_of_quiet hquiet) (Happening.heard?_of_quiet hquiet)

theorem Phase.Shows.lastRejection {phase : Phase} {start store : TokenStore}
    (h : phase.Shows user start trace store) : store.lastRejection = start.lastRejection := by
  cases phase with
  | kept token => exact h.2.1
  | _ => rw [h.1]

theorem Phase.Shows.get?_eq {phase : Phase} {start store : TokenStore}
    (h : phase.Shows user start trace store) (habsent : start.get? user = none) :
    store.get? user = phase.token? := by
  cases phase with
  | kept token => exact h.1
  | _ =>
      rw [h.1]
      exact habsent

theorem Phase.Shows.moves {phase phase' : Phase} {start : TokenStore} {c : Credentials}
    {i : Nat} {deed : Deed} {holder : Option Nat}
    (h : phase.Shows user start trace scene.store) (hc : c.username = user)
    (hmoves : phase.Moves c deed phase') (hallowed : deed.Allowed scene holder) :
    phase'.Shows user start (trace ++ [.did i deed]) (deed.scene scene).store := by
  cases hmoves with
  | stay _ hquiet => exact h.quiet hquiet
  | ask =>
      obtain ⟨hstore, hasked, hheard⟩ := h
      refine ⟨hstore, ⟨c, hc, ?_⟩, ?_⟩
      · simp [List.filterMap_append, hasked, Happening.asked?]
      · simp [List.filterMap_append, hheard, Happening.heard?]
  | @hear answer value hverdict =>
      obtain ⟨hstore, ⟨c', hc', hasked⟩, hheard⟩ := h
      refine ⟨hstore, ⟨c', hc', ?_⟩, answer, ?_, hverdict⟩
      · simp [List.filterMap_append, hasked, Happening.asked?]
      · simp [List.filterMap_append, hheard, Happening.heard?]
  | keep value now store =>
      obtain rfl : store = scene.store := hallowed
      obtain ⟨hstore, ⟨c', hc', hasked⟩, answer, hheard, hverdict⟩ := h
      subst hc
      refine ⟨TokenStore.get?_insert.trans (if_pos rfl), ?_, ⟨c', hc', ?_⟩,
        ⟨answer, ?_, hverdict⟩, i, scene.store,
        scene.store.insert c.username ⟨value, now⟩, by simp, ?_⟩
      · rw [← hstore]
        rfl
      · simp [List.filterMap_append, hasked, Happening.asked?]
      · simp [List.filterMap_append, hheard, Happening.heard?]
      · exact TokenStore.get?_insert.trans (if_pos rfl)

/-- Only under the lock does a caller take them to the next phase. -/
theorem Phase.Moves.stays_or {phase phase' : Phase} {c : Credentials} {p p' : Tokens.Point}
    {deed : Deed} (h : phase.Moves c deed phase') (hnext : p.Next policy c deed p') :
    phase' = phase ∨ phase.token? = none ∧ p.holds = true := by
  cases hholds : p.holds with
  | true =>
      cases h with
      | stay => exact .inl rfl
      | _ => exact .inr ⟨rfl, rfl⟩
  | false =>
      have hquiet := hnext.quiet_of_not_holds hholds
      cases h with
      | stay => exact .inl rfl
      | _ => cases hquiet

theorem Shared.set {start : TokenStore} {phase phase' : Phase} {i : Nat} {m m' : Member}
    {scene : Scene} {holder : Option Nat} (h : Shared user start trace phase pool)
    (hlock : pool.Disciplined) (hi : pool.members[i]? = some m)
    (hphase : phase' = phase ∨ phase.token? = none ∧ m.holds = true)
    (hshows : phase'.Shows user start (trace ++ [happening]) scene.store)
    (hbusy : phase'.busy = true → holder ≠ none)
    (hm' : Fits user start.lastRejection phase' m') :
    Shared user start (trace ++ [happening]) phase'
      ⟨scene, holder, pool.members.set i m'⟩ := by
  refine ⟨hshows, hbusy, fun other hother => ?_⟩
  obtain ⟨j, hj⟩ := List.mem_iff_getElem?.mp hother
  obtain ⟨-, rfl⟩ | ⟨hji, hj⟩ := Pool.eq_or_of_getElem?_set hj
  · exact hm'
  have hfits := h.members other (List.mem_of_getElem? hj)
  obtain rfl | ⟨htoken, hholds⟩ := hphase
  · exact hfits
  · refine hfits.mono htoken ?_
    rw [← Bool.not_eq_true]
    exact fun hother => hji (hlock.eq_of_holds hj hi hother hholds)

theorem Shared.finds {phase : Phase} {i : Nat} {deed : Deed}
    (h : Shared user scene.store trace phase pool) (habsent : scene.store.get? user = none)
    (hcalm : Calm policy user scene (trace ++ [.did i deed]))
    (hallowed : deed.Allowed pool.scene pool.holder) :
    Finds policy user scene.store.lastRejection phase deed where
  looked := by
    rintro store rfl
    obtain rfl : store = pool.scene.store := hallowed
    exact ⟨h.shows.get?_eq habsent, h.shows.lastRejection⟩
  warm now since hnow := hcalm.warm i now since (by simp [hnow])
  fresh := by
    rintro now token rfl rfl
    obtain ⟨-, -, -, -, j, before, after, hkept, hafter⟩ := h.shows
    have hlasts := (List.pairwise_append.mp hcalm.lasting).2.2 _ hkept (.did i (.read now))
      (by simp)
    exact TokenStore.isFresh_iff.mpr (hlasts token hafter now rfl)
  granted := by
    rintro request answer rfl rfl
    obtain ⟨-, -, hheard⟩ := h.shows
    refine hcalm.granted answer ?_
    simp [List.filterMap_append, hheard, Happening.heard?]
  locked := by
    rintro rfl
    rw [← Bool.not_eq_true]
    exact fun hbusy => h.busy hbusy hallowed
  patient := hcalm.patient i deed (by simp)

/-- As long as some caller is between the request and the store, someone has the lock. -/
theorem Shared.holder_ne_none {phase phase' : Phase} {i : Nat} {c : Credentials}
    {p p' : Tokens.Point} {deed : Deed} {start : TokenStore}
    (h : Shared user start trace phase pool) (hlock : pool.Disciplined)
    (hi : pool.members[i]? = some (.acquire c p)) (hp : p.Next policy c deed p')
    (hphase : phase' = phase ∨ phase.token? = none ∧ p.holds = true)
    (hbusy : phase'.busy = true) : deed.holder i pool.holder ≠ none := by
  have hholder : pool.holder ≠ none := by
    obtain rfl | ⟨-, hholds⟩ := hphase
    · exact h.busy hbusy
    · rw [(hlock.holds_iff hi).mp hholds]
      nofun
  cases deed with
  | locked => nofun
  | unlocked => exact absurd rfl hp.ne_unlocked
  | _ => exact hholder

theorem Shared.happens {phase : Phase} (habsent : scene.store.get? user = none)
    (hcalm : Calm policy user scene (trace ++ [happening]))
    (h : Shared user scene.store trace phase pool) (hlock : pool.Disciplined)
    (hnext : pool.Happens policy happening pool') :
    ∃ phase', Shared user scene.store (trace ++ [happening]) phase' pool' := by
  cases hnext with
  | elapse now => exact ⟨phase, h.shows.concat rfl rfl, h.busy, h.members⟩
  | @begin call m hstart =>
      refine ⟨phase, h.shows.concat rfl rfl, h.busy, fun m' hm' => ?_⟩
      rcases List.mem_append.mp hm' with hm' | hm'
      · exact h.members m' hm'
      · obtain rfl := List.mem_singleton.mp hm'
        obtain ⟨c, rfl, hc, hcomplete⟩ := hcalm.calls call (by simp)
        simp only [Member.start?, hcomplete, if_true, Option.some.injEq] at hstart
        subst hstart
        exact ⟨hc, .tokens phase⟩
  | @act i m m' deed hi hnext hallowed =>
      have hfits := h.members m (List.mem_of_getElem? hi)
      have hfinds := h.finds habsent hcalm hallowed
      cases hnext with
      | @acquire c p _ p' hp =>
          obtain ⟨rfl, hstands⟩ := hfits
          obtain ⟨phase', hmoves, hstands'⟩ := hstands.next hp hfinds
          have hphase := hmoves.stays_or hp
          exact ⟨phase', h.set hlock hi hphase (h.shows.moves rfl hmoves hallowed)
            (h.holder_ne_none hlock hi hp hphase) ⟨rfl, hstands'⟩⟩
      | @acquired c p _ result hp =>
          obtain ⟨-, hstands⟩ := hfits
          have hshows : phase.Shows user scene.store (trace ++ [.did i deed])
              (deed.scene pool.scene).store := h.shows.quiet hp.quiet
          obtain ⟨token, rfl, rfl⟩ := hstands.ends hp hfinds
          exact ⟨.kept token, h.set hlock hi (.inl rfl) hshows nofun ⟨token, rfl, rfl⟩⟩
      | clear => cases hfits
      | send => cases hfits
      | sent => cases hfits

theorem shared_of_run (hrun : (Pool.idle scene).Run policy trace pool)
    (habsent : scene.store.get? user = none) (hcalm : Calm policy user scene trace) :
    ∃ phase, Shared user scene.store trace phase pool := by
  induction hrun with
  | nil =>
      refine ⟨.unasked, ⟨rfl, rfl, rfl⟩, ?_, fun m hm => ?_⟩
      · intro hbusy
        cases hbusy
      · cases hm
  | concat hrun hnext ih =>
      obtain ⟨phase, h⟩ := ih hcalm.of_append
      exact h.happens habsent hcalm (Pool.disciplined_of_run hrun) hnext

theorem Phase.Shows.length_asked_le {phase : Phase} {start store : TokenStore}
    (h : phase.Shows user start trace store) :
    (trace.filterMap Happening.asked?).length ≤ 1 := by
  cases phase with
  | unasked => simp [h.2.1]
  | asked =>
      obtain ⟨-, ⟨c, -, hasked⟩, -⟩ := h
      simp [hasked]
  | granted value =>
      obtain ⟨-, ⟨c, -, hasked⟩, -⟩ := h
      simp [hasked]
  | kept token =>
      obtain ⟨-, -, ⟨c, -, hasked⟩, -⟩ := h
      simp [hasked]

/-- Callers who are all at the end have shared one request and its token. -/
theorem Shared.all_ended {provider : Provider} {start : TokenStore} {phase : Phase}
    (h : Shared user start trace phase pool) (hne : pool.members ≠ [])
    (hover : ∀ m ∈ pool.members, ∃ result, m.task provider.policy = .done result) :
    ∃ (c : Credentials) (answer : Except Failure Response) (value : String),
      c.username = user ∧
      trace.filterMap Happening.asked? = [Tokens.request c] ∧
      trace.filterMap Happening.heard? = [answer] ∧ Tokens.verdict answer = .ok value ∧
      ∀ m ∈ pool.members, m.task provider.policy = .done (.ok (.token (some value))) := by
  have hfits : ∀ m ∈ pool.members, ∃ token, phase = .kept token ∧
      m.task provider.policy = .done (.ok (.token (some token.value))) := by
    intro m hm
    obtain ⟨result, hdone⟩ := hover m hm
    obtain ⟨call, rfl⟩ := Member.exists_ended_of_done hdone
    obtain ⟨token, hphase, rfl⟩ := h.members _ hm
    exact ⟨token, hphase, rfl⟩
  obtain ⟨m, hm⟩ := List.exists_mem_of_ne_nil _ hne
  obtain ⟨token, rfl, -⟩ := hfits m hm
  obtain ⟨-, -, ⟨c, hc, hasked⟩, ⟨answer, hheard, hverdict⟩, -⟩ := h.shows
  refine ⟨c, answer, token.value, hc, hasked, hheard, hverdict, fun m hm => ?_⟩
  obtain ⟨token', hphase, hdone⟩ := hfits m hm
  cases hphase
  exact hdone

end Refresh

namespace System

open Refresh

def call? (s : System) (i : Nat) : Option Call := s.threads[i]?.map (·.call)

theorem call?_system {policy : TokenPolicy} (pool : Pool) :
    (pool.system policy).call? = pool.call? := by
  funext i
  simp only [call?, Pool.call?, Pool.system, List.getElem?_map, Option.map_map]
  rfl

/-- Callers refresh their tokens one at a time, however their steps interleave and
whoever cancels or clears the store.  A token is not asked for while one is there that is
fresh; callers who come without one share the first that is granted, and get it. -/
theorem refresh_once {provider : Provider} {scene : Scene} {trace : List Happening}
    {s : System} (hrun : (idle scene).Run provider trace s)
    (hplain : ∀ call, .begun call ∈ trace → call.Plain) :
    (∀ i j, s.Waits i → s.Waits j → i = j) ∧
    (∀ before i st user token between j c request,
      trace = before ++ .did i (.amended st (st.insert user token)) :: between →
      s.Asks j (.acquire c) request → c.username = user →
      Emptied between s.call? ∨ Expired provider.policy token between) ∧
    (∀ user, scene.store.get? user = none → Calm provider.policy user scene trace →
      (trace.filterMap Happening.asked?).length ≤ 1 ∧
      trace.countP Happening.isDeed ≤ 22 * s.threads.length ∧
      ((∃ thread ∈ s.threads, ∀ result, thread.task ≠ .done result) →
        ∃ i deed s', deed.givesUp = false ∧ s.Happens provider (.did i deed) s') ∧
      (s.threads ≠ [] → (∀ thread ∈ s.threads, ∃ result, thread.task = .done result) →
        ∃ (c : Credentials) (answer : Except Failure Response) (value : String),
          c.username = user ∧
          trace.filterMap Happening.asked? = [Tokens.request c] ∧
          trace.filterMap Happening.heard? = [answer] ∧
          Tokens.verdict answer = .ok value ∧
          ∀ thread ∈ s.threads, thread.task = .done (.ok (.token (some value))))) := by
  have herrands : ∀ e, .begun (.errand e) ∉ trace := fun e he => by cases hplain _ he
  obtain ⟨pool, hpool, rfl⟩ := Pool.run_of_system (.idle scene) hrun herrands
  have hlock := Pool.disciplined_of_run hpool
  have hmembers : ∀ m ∈ pool.members, m.call.Plain := fun m hm =>
    hplain m.call (Pool.begun_of_mem hpool hm)
  refine ⟨fun i j => eq_of_waits hlock hmembers, ?_, ?_⟩
  · rintro before i st user token between j c request rfl hasks hc
    obtain ⟨pool₁, hfirst, hrest⟩ := Trail.append_iff.mp hpool
    obtain ⟨pool₂, hnext, hbetween⟩ := Trail.cons_iff.mp hrest
    have hsecond : (Pool.idle scene).Run provider.policy
        (before ++ [.did i (.amended st (st.insert user token))]) pool₂ :=
      hfirst.concat hnext
    have hsettled : Settled user token [] pool₂ := by
      refine settled_of_insert hnext (fun m hm => hplain m.call ?_)
        (Pool.disciplined_of_run hsecond)
      have hbegun := Pool.begun_of_mem hsecond hm
      rw [List.append_cons]
      exact List.mem_append_left _ hbegun
    obtain hsettled | hemptied | hexpired := settled_or_of_run hbetween
      (fun call hcall => hplain call (by simp [hcall])) hsettled
    · exact absurd hasks (hsettled.not_asks hc)
    · rw [call?_system]
      exact .inl hemptied
    · exact .inr hexpired
  · intro user habsent hcalm
    obtain ⟨phase, hshared⟩ := shared_of_run hpool habsent hcalm
    have hdeeds := Pool.countP_isDeed_le hpool
    refine ⟨hshared.shows.length_asked_le, ?_, ?_, ?_⟩
    · simp only [Pool.system, List.length_map]
      omega
    · rintro ⟨thread, hthread, hover⟩
      obtain ⟨m, hm, rfl⟩ := List.mem_map.mp hthread
      exact Pool.exists_happens hlock hm hover
    · intro hne hover
      have hmembers' : ∀ m ∈ pool.members,
          ∃ result, m.task provider.policy = .done result := fun m hm =>
        hover (m.thread provider.policy) (List.mem_map_of_mem hm)
      obtain ⟨c, answer, value, hc, hasked, hheard, hverdict, hdone⟩ :=
        hshared.all_ended (fun h => hne (by simp [Pool.system, h])) hmembers'
      refine ⟨c, answer, value, hc, hasked, hheard, hverdict, fun thread hthread => ?_⟩
      obtain ⟨m, hm, rfl⟩ := List.mem_map.mp hthread
      exact hdone m hm

def grant (value : String) : Except Failure Response :=
  .ok ⟨200, "\x7b\"message\":\"OK\",\"token\":\"" ++ value ++ "\"\x7d"⟩

/-- Two callers come for a token, and one gets it for both. -/
def crowd : List Cue :=
  List.replicate 2 (.begin (.acquire viewer)) ++
    List.replicate 2 (.go 0) ++ List.replicate 2 (.go 1) ++ List.replicate 4 (.go 0) ++
    .hear 0 (grant "first") :: List.replicate 3 (.go 0) ++ List.replicate 4 (.go 1)

/-- The token is thrown away after that, and a third caller is about to ask for another. -/
def crowdAgain : List Cue :=
  crowd ++ [.begin .clear, .go 2, .begin (.acquire viewer)] ++ List.replicate 5 (.go 3)

def comes : Happening → Bool
  | .elapsed _ => true
  | .begun call => call == .acquire viewer
  | .did _ deed => !deed.givesUp

theorem exists_crowd : ∃ trace s, (idle ⟨.empty, ⟨0, 0⟩⟩).Run patientProvider trace s ∧
    Calm patientProvider.policy "viewer" ⟨.empty, ⟨0, 0⟩⟩ trace ∧
    trace.filterMap Happening.heard? = [grant "first"] ∧ s.threads.length = 2 ∧
    ∀ thread ∈ s.threads, ∃ result, thread.task = .done result := by
  have hreplay : ((replay patientProvider (idle ⟨.empty, ⟨0, 0⟩⟩) crowd).any fun told =>
      told.1.all comes && decide (told.1.Pairwise (Lasts patientProvider.policy "viewer")) &&
      told.1.filterMap Happening.heard? == [grant "first"] && told.2.threads.length == 2 &&
      told.2.threads.all (·.task.result?.isSome)) = true := by
    decide +kernel
  obtain ⟨⟨trace, s⟩, htold, hchecks⟩ := (Option.any_eq_true ..).mp hreplay
  simp only [Bool.and_eq_true, decide_eq_true_eq, beq_iff_eq, List.all_eq_true] at hchecks
  obtain ⟨⟨⟨⟨hcomes, hlasting⟩, hheard⟩, hlength⟩, hover⟩ := hchecks
  refine ⟨trace, s, run_of_replay htold, ⟨?_, ?_, nofun, hlasting, ?_⟩, hheard, hlength, ?_⟩
  · intro call hcall
    exact ⟨viewer, eq_of_beq (hcomes _ hcall), rfl, by decide⟩
  · intro i deed hi
    exact Bool.not_eq_true' _ |>.mp (hcomes _ hi)
  · intro answer hanswer
    rw [hheard] at hanswer
    cases hanswer
    exact ⟨"first", by decide +kernel⟩
  · intro thread hthread
    obtain ⟨result, hresult⟩ := Option.isSome_iff_exists.mp (hover thread hthread)
    exact ⟨result, Task.eq_done_of_result? hresult⟩

def firstToken : IssuedToken := ⟨"first", ⟨0, 0⟩⟩

def plain : Happening → Bool
  | .elapsed _ => false
  | .begun call => call == .acquire viewer || call == .clear
  | .did _ deed => match deed with
      | .read now => now == ⟨0, 0⟩
      | _ => true

def asksAgain (thread : Thread) : Bool :=
  thread.call == .acquire viewer && !thread.waiting &&
    match thread.task with
    | .exchange request _ => request == Tokens.request viewer
    | _ => false

theorem asks_of_asksAgain {s : System} {i : Nat}
    (h : s.threads[i]?.any asksAgain = true) :
    s.Asks i (.acquire viewer) (Tokens.request viewer) := by
  obtain ⟨⟨call, task, waiting⟩, hthread, hasks⟩ := (Option.any_eq_true ..).mp h
  cases task with
  | exchange request next =>
      simp only [asksAgain, Bool.and_eq_true, beq_iff_eq, Bool.not_eq_true'] at hasks
      obtain ⟨⟨rfl, rfl⟩, rfl⟩ := hasks
      exact ⟨next, hthread⟩
  | _ => simp [asksAgain] at hasks

theorem exists_crowdAgain : ∃ trace s,
    (idle ⟨.empty, ⟨0, 0⟩⟩).Run patientProvider trace s ∧
    (∀ happening ∈ trace, plain happening = true) ∧
    .did 0 (.amended .empty (TokenStore.empty.insert "viewer" firstToken)) ∈ trace ∧
    s.Asks 3 (.acquire viewer) (Tokens.request viewer) := by
  have hreplay : ((replay patientProvider (idle ⟨.empty, ⟨0, 0⟩⟩) crowdAgain).any fun told =>
      told.1.all plain &&
      told.1.contains
        (.did 0 (.amended .empty (TokenStore.empty.insert "viewer" firstToken))) &&
      told.2.threads[3]?.any asksAgain) = true := by
    decide +kernel
  obtain ⟨⟨trace, s⟩, htold, hchecks⟩ := (Option.any_eq_true ..).mp hreplay
  simp only [Bool.and_eq_true, List.all_eq_true, List.contains_iff_mem] at hchecks
  obtain ⟨⟨hplain, hstored⟩, hasks⟩ := hchecks
  exact ⟨trace, s, run_of_replay htold, hplain, hstored, asks_of_asksAgain hasks⟩

theorem refresh_once_crowd :
    (∃ trace s c, (idle ⟨.empty, ⟨0, 0⟩⟩).Run patientProvider trace s ∧
      s.threads.length = 2 ∧ trace.filterMap Happening.asked? = [Tokens.request c] ∧
      ∀ thread ∈ s.threads, thread.task = .done (.ok (.token (some "first")))) ∧
    ∃ before between s, (idle ⟨.empty, ⟨0, 0⟩⟩).Run patientProvider
        (before ++
          .did 0 (.amended .empty (TokenStore.empty.insert "viewer" firstToken)) :: between) s ∧
      s.Asks 3 (.acquire viewer) (Tokens.request viewer) ∧ Emptied between s.call? := by
  constructor
  · obtain ⟨trace, s, hrun, hcalm, hfirst, hlength, hover⟩ := exists_crowd
    have hplain : ∀ call, .begun call ∈ trace → call.Plain := by
      intro call hcall
      obtain ⟨c, rfl, -⟩ := hcalm.calls call hcall
      exact .acquire c
    obtain ⟨-, -, hshared⟩ := refresh_once hrun hplain
    obtain ⟨-, -, -, hend⟩ := hshared "viewer" rfl hcalm
    have hne : s.threads ≠ [] := List.ne_nil_of_length_eq_add_one hlength
    obtain ⟨c, answer, value, -, hasked, hheard, hverdict, hdone⟩ := hend hne hover
    obtain rfl : grant "first" = answer := by
      rw [hfirst] at hheard
      exact List.head_eq_of_cons_eq hheard
    have hgrant : Tokens.verdict (grant "first") = .ok "first" := by decide +kernel
    obtain rfl : "first" = value := Except.ok.inj (hgrant.symm.trans hverdict)
    exact ⟨trace, s, c, hrun, hlength, hasked, hdone⟩
  · obtain ⟨trace, s, hrun, hpasses, hstored, hasks⟩ := exists_crowdAgain
    obtain ⟨before, between, rfl⟩ := List.append_of_mem hstored
    have hplain : ∀ call, .begun call ∈ before ++
        .did 0 (.amended .empty (TokenStore.empty.insert "viewer" firstToken)) :: between →
        call.Plain := by
      intro call hcall
      have hcall := hpasses _ hcall
      simp only [plain, Bool.or_eq_true, beq_iff_eq] at hcall
      obtain rfl | rfl := hcall
      · exact .acquire viewer
      · exact .clear
    refine ⟨before, between, s, hrun, hasks, ?_⟩
    obtain hemptied | ⟨i, now, hi, hold⟩ := (refresh_once hrun hplain).2.1 before 0 .empty
      "viewer" firstToken between 3 viewer (Tokens.request viewer) rfl hasks rfl
    · exact hemptied
    · have hnow := hpasses (.did i (.read now)) (by simp [hi])
      obtain rfl : now = ⟨0, 0⟩ := eq_of_beq hnow
      exact absurd hold (by decide)

end System
end ProgramGuide
