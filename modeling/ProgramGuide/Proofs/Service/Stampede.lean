import ProgramGuide.Proofs.Service.Resend

/-!
# Retries in a crowd

Any number of callers send requests for one user, and all are turned down at first.
Whoever is late may throw away the token another has just been given: there are as many
requests for a token as tokens thrown away, and one more.
-/

namespace ProgramGuide

namespace Stampede

variable {policy : TokenPolicy} {c : Credentials} {scene : Scene} {pool pool' : Pool}
variable {trace : List Happening} {happening : Happening} {user : String} {deed : Deed}
variable {last : Option Int} {get : Option IssuedToken} {m m' : Member} {i : Nat}

/-! ## Where the threads stand -/

structure Tracks (c : Credentials) (scene : Scene) (trace : List Happening) (pool : Pool) :
    Prop where
  lastRejection : pool.scene.store.lastRejection = scene.store.lastRejection
  threads : ∀ i m, pool.members[i]? = some m →
    Sends c scene.store.lastRejection trace (pool.scene.store.get? c.username) i m
  unborn : ∀ i, pool.members.length ≤ i → asks i trace = [] ∧ hears i trace = []
  retries : ∀ i, ∀ request ∈ (asks i trace).tail, request ≠ Tokens.request c →
    ∃ value, request.token = some value ∧ Granted c trace value
  stored : Amended trace → ∀ token, pool.scene.store.get? c.username = some token →
    Issued c.username trace token
  granted : ∀ token, Issued c.username trace token → Granted c trace token.value

theorem send_of_start? {call : Call} (hstart : Member.start? call = some m)
    (hcall : ∃ request, call = .send true c request ∧ request.token.isSome = true) :
    ∃ request, m = .send true c request .current ∧ request.token.isSome = true := by
  obtain ⟨request, rfl, htoken⟩ := hcall
  refine ⟨request, ?_, htoken⟩
  simpa [Member.start?, Transport.Place.start, htoken] using hstart.symm

theorem Tracks.retries_concat (h : Tracks c scene trace pool)
    (hnew : ∀ i request, happening = .did i (.asked request) →
      asks i trace = [] ∨ request = Tokens.request c ∨
        ∃ value, request.token = some value ∧ Granted c trace value)
    (i : Nat) (request : Request) (hmem : request ∈ (asks i (trace ++ [happening])).tail)
    (hne : request ≠ Tokens.request c) :
    ∃ value, request.token = some value ∧ Granted c (trace ++ [happening]) value := by
  have hgranted (h : ∃ value, request.token = some value ∧ Granted c trace value) :
      ∃ value, request.token = some value ∧ Granted c (trace ++ [happening]) value := by
    obtain ⟨value, htoken, h⟩ := h
    exact ⟨value, htoken, h.concat⟩
  rw [asks_concat] at hmem
  cases hasked : happening.askedBy? i with
  | none =>
      rw [hasked, Option.toList_none, List.append_nil] at hmem
      exact hgranted (h.retries i request hmem hne)
  | some sent =>
      rw [hasked, Option.toList_some] at hmem
      by_cases hfirst : asks i trace = []
      · rw [hfirst] at hmem
        cases hmem
      · rw [List.tail_append_of_ne_nil hfirst] at hmem
        rcases List.mem_append.mp hmem with hmem | hmem
        · exact hgranted (h.retries i request hmem hne)
        · obtain rfl := List.mem_singleton.mp hmem
          obtain hnil | hrequest | hretry := hnew i request (Happening.eq_of_askedBy? hasked)
          · exact absurd hnil hfirst
          · exact absurd hrequest hne
          · exact hgranted hretry

theorem Tracks.granted_concat (h : Tracks c scene trace pool)
    (hnew : ∀ i before after token, happening = .did i (.amended before after) →
      after.get? c.username = some token → Granted c trace token.value)
    (token : IssuedToken) (hissued : Issued c.username (trace ++ [happening]) token) :
    Granted c (trace ++ [happening]) token.value := by
  obtain ⟨i, before, after, hmem, hafter⟩ := hissued
  rcases List.mem_append.mp hmem with hmem | hmem
  · exact (h.granted token ⟨i, before, after, hmem, hafter⟩).concat
  · exact (hnew i before after token (List.mem_singleton.mp hmem).symm hafter).concat

/-- What neither asks nor tells nor amends leaves the track as it is. -/
theorem Tracks.idle (h : Tracks c scene trace pool) (hasked : ∀ i, happening.askedBy? i = none)
    (hheard : ∀ i, happening.heardBy? i = none)
    (hdid : ∀ i deed, happening ≠ .did i deed) :
    Tracks c scene (trace ++ [happening]) pool where
  lastRejection := h.lastRejection
  threads i m hi := (h.threads i m hi).mono (hasked i) (hheard i) (.inl rfl)
  unborn i hi := by
    obtain ⟨hasks, hhears⟩ := h.unborn i hi
    rw [asks_concat, hears_concat, hasks, hhears, hasked, hheard]
    exact ⟨rfl, rfl⟩
  retries := h.retries_concat fun i request hdone => absurd hdone (hdid i _)
  stored hamended token hget :=
    (h.stored (hamended.of_concat fun i _ _ => hdid i _) token hget).concat
  granted := h.granted_concat fun i _ _ _ hdone => absurd hdone (hdid i _)

theorem Tracks.begin {call : Call} (h : Tracks c scene trace pool)
    (hstart : Member.start? call = some m)
    (hcall : ∃ request, call = .send true c request ∧ request.token.isSome = true) :
    Tracks c scene trace { pool with members := pool.members ++ [m] } := by
  obtain ⟨request, rfl, htoken⟩ := send_of_start? hstart hcall
  refine { h with threads := ?_, unborn := ?_ }
  · intro i m hi
    obtain ⟨rfl, rfl⟩ | hi := Pool.eq_or_of_getElem?_concat hi
    · obtain ⟨hasks, hhears⟩ := h.unborn _ (Nat.le_refl _)
      exact .send htoken (.current hasks hhears)
    · exact h.threads i m hi
  · intro i hi
    rw [List.length_append] at hi
    exact h.unborn i (by omega)

theorem Tracks.knows (h : Tracks c scene trace pool)
    (hallowed : deed.Allowed pool.scene pool.holder) :
    Knows c scene.store.lastRejection trace (pool.scene.store.get? c.username) deed where
  looked := by
    rintro store rfl
    obtain rfl : store = pool.scene.store := hallowed
    exact ⟨rfl, h.lastRejection⟩
  stored := h.stored
  granted := h.granted

theorem Tracks.act (h : Tracks c scene trace pool) (hlock : pool.Disciplined)
    (hi : pool.members[i]? = some m) (hnext : m.Next policy deed m')
    (hallowed : deed.Allowed pool.scene pool.holder)
    (hturned : TurnedDown policy c (trace ++ [.did i deed])) :
    Tracks c scene (trace ++ [.did i deed])
      ⟨deed.scene pool.scene, deed.holder i pool.holder, pool.members.set i m'⟩ := by
  have hsends := h.threads i m hi
  obtain ⟨hsends', hturn⟩ := hsends.next hnext hturned (h.knows hallowed)
  have hafter : (deed.scene pool.scene).store.get? c.username =
      after c.username (pool.scene.store.get? c.username) deed := by
    cases deed <;> rfl
  have hlt : i < pool.members.length := (List.getElem?_eq_some_iff.mp hi).1
  refine ⟨(hturn.lastRejection hallowed).trans h.lastRejection, ?_, ?_, ?_, ?_, ?_⟩
  · intro j other hj
    dsimp only at hj ⊢
    rw [hafter]
    obtain ⟨rfl, rfl⟩ | ⟨hji, hj⟩ := Pool.eq_or_of_getElem?_set hj
    · exact hsends'
    · refine (h.threads j other hj).mono (Happening.askedBy?_of_ne hji)
        (Happening.heardBy?_of_ne hji) ?_
      obtain hsame | hnone | hunderway := hturn.after_eq
      · exact .inl hsame
      · exact .inr (.inl hnone)
      · -- Only the one with the lock stores a token.
        refine .inr (.inr ?_)
        rw [← Bool.not_eq_true]
        exact fun hholds => hji (hlock.eq_of_holds hj hi hholds (holds_of_underwayIn hunderway))
  · intro j hj
    rw [List.length_set] at hj
    have hji : j ≠ i := by omega
    obtain ⟨hasks, hhears⟩ := h.unborn j hj
    rw [asks_concat, hears_concat, hasks, hhears, Happening.askedBy?_of_ne hji,
      Happening.heardBy?_of_ne hji]
    exact ⟨rfl, rfl⟩
  · exact h.retries_concat fun j request hdone => by
      cases hdone
      exact hsends.retry hnext
  · intro hamended token hget
    dsimp only at hget
    rw [hafter] at hget
    cases deed with
    | amended before store => exact ⟨i, before, store, by simp, hget⟩
    | _ => exact (h.stored (hamended.of_concat nofun) token hget).concat
  · exact h.granted_concat fun j before after token hdone hget => by
      cases hdone
      exact hsends.granted hnext hget

theorem Tracks.happens (h : Tracks c scene trace pool) (hlock : pool.Disciplined)
    (hturned : TurnedDown policy c (trace ++ [happening]))
    (hnext : pool.Happens policy happening pool') :
    Tracks c scene (trace ++ [happening]) pool' := by
  cases hnext with
  | elapse now =>
      have hidle : Tracks c scene (trace ++ [.elapsed now]) pool :=
        h.idle (fun _ => rfl) (fun _ => rfl) nofun
      exact { hidle with }
  | @begin call m hstart =>
      have hidle : Tracks c scene (trace ++ [.begun call]) pool :=
        h.idle (fun _ => rfl) (fun _ => rfl) nofun
      exact hidle.begin hstart (hturned.calls call (by simp))
  | act hi hnext hallowed => exact h.act hlock hi hnext hallowed hturned

theorem tracks_of_run (hrun : (Pool.idle scene).Run policy trace pool)
    (hturned : TurnedDown policy c trace) : Tracks c scene trace pool := by
  induction hrun with
  | nil =>
      refine ⟨rfl, fun i m hi => ?_, fun _ _ => ⟨rfl, rfl⟩, fun _ _ hmem => ?_, ?_, ?_⟩
      · simp [Pool.idle] at hi
      · cases hmem
      · rintro ⟨_, _, _, hmem⟩
        cases hmem
      · rintro _ ⟨_, _, _, hmem, _⟩
        cases hmem
  | concat hrun hnext ih =>
      exact (ih hturned.of_append).happens (Pool.disciplined_of_run hrun) hturned hnext

/-! ## The accounts -/

/-- A token is there or is yet to be found, unless a caller has given up. -/
def Served (policy : TokenPolicy) (c : Credentials) (last : Option Int)
    (trace : List Happening) (get : Option IssuedToken) (members : List Member) : Prop :=
  (get.isSome = true ∧ 0 < kept c.username trace) ∨
  (∃ m ∈ members, pendingIn m = true) ∨
  ∃ i deed, .did i deed ∈ trace ∧ Resigns policy last deed

/-- How many tokens have been asked for, stored and thrown away. -/
structure Ledger (policy : TokenPolicy) (c : Credentials) (scene : Scene)
    (trace : List Happening) (pool : Pool) : Prop where
  stored : kept c.username trace = 0 ∧ discarded c.username trace = 0 ∨
    0 < kept c.username trace ∧ kept c.username trace =
      discarded c.username trace + (pool.scene.store.get? c.username).isSome.toNat
  asked : requests c trace = kept c.username trace + pool.members.countP underwayIn
  alone : pool.members.countP underwayIn ≤ 1
  emptied : discarded c.username trace < pool.members.countP past ∨
    pool.members.countP past = 0 ∧ kept c.username trace = 0
  served : 0 < pool.members.countP past →
    Served policy c scene.store.lastRejection trace (pool.scene.store.get? c.username)
      pool.members

private theorem countP_set {p : α → Bool} {l : List α} {i : Nat} {a b : α}
    (hi : l[i]? = some a) :
    (l.set i b).countP p + (p a).toNat = l.countP p + (p b).toNat := by
  induction l generalizing i with
  | nil => cases hi
  | cons head l ih =>
      cases i with
      | zero =>
          obtain rfl : head = a := by simpa using hi
          cases ha : p head <;> cases hb : p b <;> simp [ha, hb]
      | succ i =>
          have htail := ih (i := i) (by simpa using hi)
          rw [List.set_cons_succ, List.countP_cons, List.countP_cons]
          omega

private theorem eq_or_mem_set {l : List α} {i : Nat} {a b x : α} (hi : l[i]? = some a)
    (hx : x ∈ l) : x = a ∨ x ∈ l.set i b := by
  obtain ⟨j, hj⟩ := List.mem_iff_getElem?.mp hx
  by_cases hij : i = j
  · subst hij
    exact .inl (Option.some.inj (hj.symm.trans hi))
  · refine .inr (List.mem_of_getElem? (i := j) ?_)
    rwa [List.getElem?_set_ne hij]

theorem stores_of_ordinary (h : ordinary c deed = true) :
    (Happening.did i deed).stores user = false := by
  cases deed <;> first
    | rfl
    | cases h

theorem discards_of_ordinary (h : ordinary c deed = true) :
    (Happening.did i deed).discards user = false := by
  cases deed <;> first
    | rfl
    | cases h

theorem asked?_ne_of_ordinary (h : ordinary c deed = true) :
    (Happening.did i deed).asked? ≠ some (Tokens.request c) := by
  cases deed with
  | asked request =>
      intro hasked
      cases hasked
      simp [ordinary] at h
  | _ => nofun

theorem discards_clear {store : TokenStore} :
    (Happening.did i (.amended store store.clear)).discards user =
      (store.get? user).isSome :=
  Bool.and_true _

theorem stores_insert {store : TokenStore} {token : IssuedToken} :
    (Happening.did i (.amended store (store.insert user token))).stores user = true := by
  simp [Happening.stores, Happening.stored?, TokenStore.get?_insert]

theorem Served.concat {members members' : List Member}
    (h : Served policy c last trace get members)
    (hmembers : ∀ m ∈ members, pendingIn m = true → m ∈ members') :
    Served policy c last (trace ++ [happening]) get members' := by
  obtain ⟨hthere, hkept⟩ | ⟨m, hm, hpending⟩ | ⟨i, deed, hi, hresigns⟩ := h
  · refine .inl ⟨hthere, ?_⟩
    rw [kept_concat]
    omega
  · exact .inr (.inl ⟨m, hmembers m hm hpending, hpending⟩)
  · exact .inr (.inr ⟨i, deed, List.mem_append_left _ hi, hresigns⟩)

theorem Served.set {members : List Member} (h : Served policy c last trace get members)
    (hi : members[i]? = some m)
    (hpending : pendingIn m = true →
      pendingIn m' = true ∨ get.isSome = true ∨ Resigns policy last deed)
    (hkept : pendingIn m = true → get.isSome = true → 0 < kept c.username trace) :
    Served policy c last (trace ++ [.did i deed]) get (members.set i m') := by
  have hlt : i < members.length := (List.getElem?_eq_some_iff.mp hi).1
  cases hm : pendingIn m with
  | false =>
      refine h.concat fun other hother hsome => ?_
      obtain rfl | hmem := eq_or_mem_set (b := m') hi hother
      · rw [hm] at hsome
        cases hsome
      · exact hmem
  | true =>
      obtain hpending' | hthere | hresigns := hpending hm
      · exact .inr (.inl ⟨m', List.mem_set hlt m', hpending'⟩)
      · have hserved : Served policy c last trace get (members.set i m') :=
          .inl ⟨hthere, hkept hm hthere⟩
        exact hserved.concat fun _ hother _ => hother
      · exact .inr (.inr ⟨i, deed, by simp, hresigns⟩)

section Turns

variable (h : Ledger policy c scene trace pool) (hi : pool.members[i]? = some m)

include h hi

theorem Ledger.ordinary (hdeed : ordinary c deed = true)
    (hpast : past m' = past m ∨
      past m' = true ∧ Resigns policy scene.store.lastRejection deed)
    (hunderway : underwayIn m' = underwayIn m)
    (hpending : pendingIn m = true → pendingIn m' = true ∨
      (pool.scene.store.get? c.username).isSome = true ∨
      Resigns policy scene.store.lastRejection deed)
    (hkept : pendingIn m = true → (pool.scene.store.get? c.username).isSome = true →
      0 < kept c.username trace) :
    Ledger policy c scene (trace ++ [.did i deed])
      ⟨deed.scene pool.scene, deed.holder i pool.holder, pool.members.set i m'⟩ := by
  have hscene : deed.scene pool.scene = pool.scene := by
    cases deed <;> first
      | rfl
      | cases hdeed
  have hpasts := countP_set (p := past) (b := m') hi
  have hpast' : (past m').toNat = (past m).toNat ∨ (past m').toNat = 1 := by
    obtain hsame | ⟨htrue, -⟩ := hpast
    · exact .inl (congrArg Bool.toNat hsame)
    · exact .inr (congrArg Bool.toNat htrue)
  have hle := Bool.toNat_le (past m)
  have hunderways := countP_set (p := underwayIn) (b := m') hi
  rw [hunderway] at hunderways
  have hasked := h.asked
  have halone := h.alone
  have hemptied := h.emptied
  have hstored := h.stored
  constructor <;> simp only [kept_concat, discarded_concat, requests_concat,
    stores_of_ordinary hdeed, discards_of_ordinary hdeed, asked?_ne_of_ordinary hdeed,
    hscene, Bool.toNat_false, Nat.add_zero, Bool.false_eq_true, and_false, if_false]
  · exact hstored
  · omega
  · omega
  · omega
  · intro hsome
    obtain hsame | ⟨-, hresigns⟩ := hpast
    · rw [hsame] at hpasts
      exact (h.served (by omega)).set hi hpending hkept
    · exact .inr (.inr ⟨i, deed, by simp, hresigns⟩)

theorem Ledger.ask (hfree : pool.members.countP underwayIn = 0) (hpast : past m = true)
    (hpast' : past m' = true) (hunderway : underwayIn m = false)
    (hunderway' : underwayIn m' = true) (hpending : pendingIn m' = true)
    (holder : Option Nat) :
    Ledger policy c scene (trace ++ [.did i (.asked (Tokens.request c))])
      ⟨pool.scene, holder, pool.members.set i m'⟩ := by
  have hpasts := countP_set (p := past) (b := m') hi
  have hunderways := countP_set (p := underwayIn) (b := m') hi
  simp only [hpast, hpast'] at hpasts
  simp only [hunderway, hunderway', hfree, Bool.toNat_false, Bool.toNat_true] at hunderways
  have hasked := h.asked
  have hemptied := h.emptied
  have hself : m' ∈ pool.members.set i m' :=
    List.mem_set (List.getElem?_eq_some_iff.mp hi).1 m'
  have hstores : (Happening.did i (.asked (Tokens.request c))).stores c.username = false := rfl
  have hdiscards :
      (Happening.did i (.asked (Tokens.request c))).discards c.username = false := rfl
  have hrequest :
      (Happening.did i (.asked (Tokens.request c))).asked? = some (Tokens.request c) := rfl
  constructor <;> simp only [kept_concat, discarded_concat, requests_concat, hstores,
    hdiscards, hrequest, Bool.toNat_false, Nat.add_zero, Bool.false_eq_true, and_false,
    if_false, if_true]
  · exact h.stored
  · omega
  · omega
  · omega
  · exact fun _ => .inr (.inl ⟨m', hself, hpending⟩)

theorem Ledger.keep {token : IssuedToken} (hget : pool.scene.store.get? c.username = none)
    (hpast : past m = true) (hpast' : past m' = true) (hunderway : underwayIn m = true)
    (hunderway' : underwayIn m' = false) (holder : Option Nat) :
    Ledger policy c scene
      (trace ++ [.did i
        (.amended pool.scene.store (pool.scene.store.insert c.username token))])
      ⟨{ pool.scene with store := pool.scene.store.insert c.username token }, holder,
        pool.members.set i m'⟩ := by
  have hpasts := countP_set (p := past) (b := m') hi
  have hunderways := countP_set (p := underwayIn) (b := m') hi
  have hsome : 0 < pool.members.countP past :=
    List.countP_pos_iff.mpr ⟨m, List.mem_of_getElem? hi, hpast⟩
  simp only [hpast, hpast'] at hpasts
  simp only [hunderway, hunderway', Bool.toNat_false, Bool.toNat_true] at hunderways
  have hasked := h.asked
  have halone := h.alone
  have hemptied := h.emptied
  have hstored := h.stored
  rw [hget, Option.isSome_none, Bool.toNat_false] at hstored
  have hinsert : (pool.scene.store.insert c.username token).get? c.username = some token :=
    TokenStore.get?_insert.trans (if_pos rfl)
  have hrequest : (Happening.did i (.amended pool.scene.store
      (pool.scene.store.insert c.username token))).asked? ≠ some (Tokens.request c) := nofun
  constructor <;> simp only [kept_concat, discarded_concat, requests_concat, stores_insert,
    Happening.not_discards_of_stores stores_insert, hrequest, hinsert, Option.isSome_some,
    Bool.toNat_true, Nat.add_zero, Bool.false_eq_true, and_false, if_false]
  · omega
  · omega
  · omega
  · omega
  · exact fun _ => .inl ⟨rfl, by rw [kept_concat, stores_insert]; exact Nat.succ_pos _⟩

theorem Ledger.clear (hpast : past m = false) (hpast' : past m' = true)
    (hunderway : underwayIn m = false) (hunderway' : underwayIn m' = false)
    (hpending : pendingIn m' = true) (holder : Option Nat) :
    Ledger policy c scene
      (trace ++ [.did i (.amended pool.scene.store pool.scene.store.clear)])
      ⟨{ pool.scene with store := pool.scene.store.clear }, holder,
        pool.members.set i m'⟩ := by
  have hpasts := countP_set (p := past) (b := m') hi
  have hunderways := countP_set (p := underwayIn) (b := m') hi
  simp only [hpast, hpast', Bool.toNat_false, Bool.toNat_true] at hpasts
  simp only [hunderway, hunderway'] at hunderways
  have hself : m' ∈ pool.members.set i m' :=
    List.mem_set (List.getElem?_eq_some_iff.mp hi).1 m'
  have hasked := h.asked
  have halone := h.alone
  have hemptied := h.emptied
  have hstored := h.stored
  have hstores : (Happening.did i (.amended pool.scene.store pool.scene.store.clear)).stores
      c.username = false := rfl
  have hrequest : (Happening.did i (.amended pool.scene.store
      pool.scene.store.clear)).asked? ≠ some (Tokens.request c) := nofun
  have hempty : (pool.scene.store.clear.get? c.username).isSome = false := rfl
  -- A token counts as thrown away if it is there and has been stored in this run.
  have hdiscarded : discarded c.username
      (trace ++ [.did i (.amended pool.scene.store pool.scene.store.clear)]) =
      kept c.username trace := by
    rw [discarded_concat, discards_clear]
    cases hthere : (pool.scene.store.get? c.username).isSome with
    | false =>
        simp only [hthere, Bool.toNat_false] at hstored
        simp only [Bool.false_eq_true, and_false, if_false]
        omega
    | true =>
        simp only [hthere, Bool.toNat_true] at hstored
        simp only [and_true]
        split <;> omega
  constructor <;> simp only [kept_concat, hdiscarded, requests_concat, hstores, hrequest,
    hempty, Bool.toNat_false, Nat.add_zero, and_true, if_false]
  · omega
  · omega
  · omega
  · have hle := Bool.toNat_le (pool.scene.store.get? c.username).isSome
    omega
  · exact fun _ => .inr (.inl ⟨m', hself, hpending⟩)

end Turns

theorem Ledger.act (h : Ledger policy c scene trace pool) (hlock : pool.Disciplined)
    (hi : pool.members[i]? = some m)
    (hturn : Turn policy c scene.store.lastRejection (pool.scene.store.get? c.username) m
      deed m')
    (hkept : pendingIn m = true → (pool.scene.store.get? c.username).isSome = true →
      0 < kept c.username trace)
    (hallowed : deed.Allowed pool.scene pool.holder) :
    Ledger policy c scene (trace ++ [.did i deed])
      ⟨deed.scene pool.scene, deed.holder i pool.holder, pool.members.set i m'⟩ := by
  cases hturn with
  | ordinary hdeed hpast hunderway hpending =>
      exact h.ordinary hi hdeed hpast hunderway hpending hkept
  | ask hholds hpast hpast' hunderway hunderway' hpending =>
      -- No other thread is between its request and the store: it would have the lock.
      have hfree : pool.members.countP underwayIn = 0 := by
        refine List.countP_eq_zero.mpr fun other hother hunder => ?_
        obtain ⟨j, hj⟩ := List.mem_iff_getElem?.mp hother
        obtain rfl := hlock.eq_of_holds hj hi (holds_of_underwayIn hunder) hholds
        obtain rfl : other = m := Option.some.inj (hj.symm.trans hi)
        rw [hunderway] at hunder
        cases hunder
      exact h.ask hi hfree hpast hpast' hunderway hunderway' hpending _
  | @keep _ _ store hget hpast hpast' hunderway hunderway' =>
      obtain rfl : store = pool.scene.store := hallowed
      exact h.keep hi hget hpast hpast' hunderway hunderway' _
  | @clear _ store hpast hpast' hunderway hunderway' hpending =>
      obtain rfl : store = pool.scene.store := hallowed
      exact h.clear hi hpast hpast' hunderway hunderway' hpending _

theorem Ledger.begin {call : Call} (h : Ledger policy c scene trace pool)
    (hstart : Member.start? call = some m)
    (hcall : ∃ request, call = .send true c request ∧ request.token.isSome = true) :
    Ledger policy c scene (trace ++ [.begun call])
      { pool with members := pool.members ++ [m] } := by
  obtain ⟨request, rfl, -⟩ := send_of_start? hstart hcall
  have hcount {p : Member → Bool} (hp : p (.send true c request .current) = false) :
      (pool.members ++ [Member.send true c request .current]).countP p =
        pool.members.countP p := by
    simp [List.countP_append, hp]
  have hasked? : (Happening.begun call).asked? ≠ some (Tokens.request c) := nofun
  have hstores : (Happening.begun call).stores c.username = false := rfl
  have hdiscards : (Happening.begun call).discards c.username = false := rfl
  constructor <;> simp only [kept_concat, discarded_concat, requests_concat, hstores,
    hdiscards, hasked?, hcount (p := past) rfl, hcount (p := underwayIn) rfl,
    Bool.toNat_false, Nat.add_zero, Bool.false_eq_true, and_false, if_false]
  · exact h.stored
  · exact h.asked
  · exact h.alone
  · exact h.emptied
  · exact fun hsome => (h.served hsome).concat fun _ hm _ => List.mem_append_left _ hm

theorem Ledger.elapse {now : Instant} (h : Ledger policy c scene trace pool) :
    Ledger policy c scene (trace ++ [.elapsed now])
      { pool with scene := { pool.scene with now } } := by
  have hasked? : (Happening.elapsed now).asked? ≠ some (Tokens.request c) := nofun
  have hstores : (Happening.elapsed now).stores c.username = false := rfl
  have hdiscards : (Happening.elapsed now).discards c.username = false := rfl
  constructor <;> simp only [kept_concat, discarded_concat, requests_concat, hstores,
    hdiscards, hasked?, Bool.toNat_false, Nat.add_zero, Bool.false_eq_true, and_false,
    if_false]
  · exact h.stored
  · exact h.asked
  · exact h.alone
  · exact h.emptied
  · exact fun hsome => (h.served hsome).concat fun _ hm _ => hm

theorem ledger_of_run (hrun : (Pool.idle scene).Run policy trace pool)
    (hturned : TurnedDown policy c trace) : Ledger policy c scene trace pool := by
  induction hrun with
  | nil => exact ⟨.inl ⟨rfl, rfl⟩, rfl, Nat.zero_le 1, .inr ⟨rfl, rfl⟩, nofun⟩
  | @concat trace happening pool pool' hrun hnext ih =>
      -- What a turn does to the accounts rests on where its thread stands and on the lock.
      have h := ih hturned.of_append
      have hlock := Pool.disciplined_of_run hrun
      have htracks := tracks_of_run hrun hturned.of_append
      cases hnext with
      | elapse now => exact h.elapse
      | @begin call m hstart => exact h.begin hstart (hturned.calls call (by simp))
      | @act i m m' deed hi hnext hallowed =>
          have hsends := htracks.threads i m hi
          refine h.act hlock hi (hsends.next hnext hturned (htracks.knows hallowed)).2 ?_
            hallowed
          intro hpending hthere
          obtain ⟨token, hget⟩ := Option.isSome_iff_exists.mp hthere
          exact kept_pos (htracks.stored (hsends.of_pendingIn hpending) token hget)

theorem Ledger.requests_le (h : Ledger policy c scene trace pool)
    (htracks : Tracks c scene trace pool) :
    requests c trace ≤ discarded c.username trace + 1 ∧
      requests c trace ≤ pool.members.length := by
  have hfree : 0 < pool.members.countP underwayIn →
      (pool.scene.store.get? c.username).isSome.toNat = 0 := by
    intro hsome
    obtain ⟨m, hm, hunderway⟩ := List.countP_pos_iff.mp hsome
    obtain ⟨i, hi⟩ := List.mem_iff_getElem?.mp hm
    rw [(htracks.threads i m hi).get_of_underwayIn hunderway]
    rfl
  have hpasts : pool.members.countP underwayIn ≤ pool.members.countP past :=
    List.countP_mono_left fun m _ => past_of_underwayIn
  have hmembers : pool.members.countP past ≤ pool.members.length := List.countP_le_length
  have hstored := h.stored
  have hasked := h.asked
  have halone := h.alone
  have hemptied := h.emptied
  have hthere := Bool.toNat_le (pool.scene.store.get? c.username).isSome
  omega

theorem Ledger.requests_eq (h : Ledger policy c scene trace pool) (hne : pool.members ≠ [])
    (hover : ∀ m ∈ pool.members, ∃ call result, m = .ended call result)
    (hsteady : ∀ i deed, .did i deed ∈ trace →
      ¬ Resigns policy scene.store.lastRejection deed) :
    requests c trace = discarded c.username trace + 1 := by
  have hpast : pool.members.countP past = pool.members.length := by
    refine List.countP_eq_length.mpr fun m hm => ?_
    obtain ⟨call, result, rfl⟩ := hover m hm
    rfl
  have hunderway : pool.members.countP underwayIn = 0 := by
    refine List.countP_eq_zero.mpr fun m hm => ?_
    obtain ⟨call, result, rfl⟩ := hover m hm
    nofun
  have hlength := List.length_pos_iff.mpr hne
  obtain ⟨hthere, hkept⟩ | ⟨m, hm, hpending⟩ | ⟨i, deed, hi, hresigns⟩ :=
    h.served (hpast ▸ hlength)
  · have hstored := h.stored
    rw [hthere, Bool.toNat_true] at hstored
    have hasked := h.asked
    omega
  · obtain ⟨call, result, rfl⟩ := hover m hm
    cases hpending
  · exact absurd hresigns (hsteady i deed hi)

end Stampede

namespace System

open Stampede Refresh

def Awaits (s : System) (i : Nat) (request : Request) : Prop :=
  ∃ call next, s.threads[i]? = some ⟨call, .exchange request next, true⟩

/-- Callers who are all turned down at first ask for new tokens one at a time, at most
once each, and send their requests again with no token but one they have asked for.  Who
is turned down late throws away what another has been given: that token has to be asked
for once more, and none is but for this reason. -/
theorem refresh_per_discard {provider : Provider} {c : Credentials} {scene : Scene}
    {trace : List Happening} {s : System} (hrun : (idle scene).Run provider trace s)
    (hturned : TurnedDown provider.policy c trace) :
    (∀ i j, s.Awaits i (Tokens.request c) → s.Awaits j (Tokens.request c) → i = j) ∧
    (∀ i, ∀ request ∈ (asks i trace).tail, request ≠ Tokens.request c →
      ∃ value, request.token = some value ∧ Granted c trace value) ∧
    requests c trace ≤ discarded c.username trace + 1 ∧
    requests c trace ≤ s.threads.length ∧
    (s.threads ≠ [] → (∀ thread ∈ s.threads, ∃ result, thread.task = .done result) →
      (∀ i deed, .did i deed ∈ trace →
        ¬ Resigns provider.policy scene.store.lastRejection deed) →
      requests c trace = discarded c.username trace + 1) := by
  have herrands : ∀ e, .begun (.errand e) ∉ trace := fun e he => by
    obtain ⟨_, hcall, -⟩ := hturned.calls _ he
    cases hcall
  obtain ⟨pool, hpool, rfl⟩ := Pool.run_of_system (.idle scene) hrun herrands
  have hlock := Pool.disciplined_of_run hpool
  have htracks := tracks_of_run hpool hturned
  have hledger := ledger_of_run hpool hturned
  obtain ⟨hrequests, hlength⟩ := hledger.requests_le htracks
  have hholds {i : Nat} (hi : (pool.system provider.policy).Awaits i (Tokens.request c)) :
      ∃ m, pool.members[i]? = some m ∧ m.holds = true := by
    obtain ⟨call, next, hi⟩ := hi
    simp only [Pool.system, List.getElem?_map, Option.map_eq_some_iff] at hi
    obtain ⟨m, hm, hthread⟩ := hi
    exact ⟨m, hm, (htracks.threads i m hm).holds_of_task (congrArg Thread.task hthread)⟩
  refine ⟨?_, htracks.retries, hrequests, ?_, ?_⟩
  · intro i j hi hj
    obtain ⟨m, hm, hholdsi⟩ := hholds hi
    obtain ⟨m', hm', hholdsj⟩ := hholds hj
    exact hlock.eq_of_holds hm hm' hholdsi hholdsj
  · simpa [Pool.system] using hlength
  · intro hne hover hsteady
    refine hledger.requests_eq (fun h => hne (by simp [Pool.system, h])) ?_ hsteady
    intro m hm
    obtain ⟨result, hdone⟩ := hover (m.thread provider.policy) (List.mem_map_of_mem hm)
    obtain ⟨call, rfl⟩ := Member.exists_ended_of_done hdone
    exact ⟨call, result, rfl⟩

def stale : Request := (Request.get "lineups").withToken "stale"

/-- Two callers send the same request.  The second is turned down after the first has got
a new token. -/
def lateRefusal : List Cue :=
  List.replicate 2 (.begin (.send true viewer stale)) ++
    List.replicate 2 (.go 0) ++ List.replicate 2 (.go 1) ++
    .hear 0 (.ok ⟨403, ""⟩) :: List.replicate 7 (.go 0) ++
    .hear 0 (grant "first") :: List.replicate 4 (.go 0) ++
    .hear 0 (.ok ⟨200, ""⟩) ::
    .hear 1 (.ok ⟨403, ""⟩) :: List.replicate 7 (.go 1) ++
    .hear 1 (grant "second") :: List.replicate 4 (.go 1) ++
    [.hear 1 (.ok ⟨200, ""⟩)]

/-- Calls of two threads to send the request; tokens are granted, and no one gives up. -/
def sends : Happening → Bool
  | .elapsed _ => false
  | .begun call => call == .send true viewer stale
  | .did i deed => decide (i < 2) && !deed.givesUp &&
      match deed with
      | .heard request answer =>
          request != Tokens.request viewer || (Tokens.verdict answer).isOk
      | _ => true

theorem exists_lateRefusal : ∃ trace s,
    (idle ⟨.empty, ⟨0, 0⟩⟩).Run patientProvider trace s ∧
    TurnedDown patientProvider.policy viewer trace ∧
    (∀ i deed, .did i deed ∈ trace → deed.givesUp = false) ∧
    s.threads.length = 2 ∧
    (∀ i < 2, (asks i trace).head? = some stale ∧
      (hears i trace).head? = some (.ok ⟨403, ""⟩)) ∧
    (∀ thread ∈ s.threads, ∃ result, thread.task = .done result) ∧
    requests viewer trace = 2 ∧ discarded "viewer" trace = 1 := by
  have hreplay : ((replay patientProvider (idle ⟨.empty, ⟨0, 0⟩⟩) lateRefusal).any fun told =>
      told.1.all sends && decide (told.1.Pairwise (Lasts patientProvider.policy "viewer")) &&
      told.2.threads.length == 2 &&
      (List.range 2).all (fun i => (asks i told.1).head? == some stale &&
        (hears i told.1).head? == some (.ok ⟨403, ""⟩)) &&
      told.2.threads.all (·.task.result?.isSome) &&
      requests viewer told.1 == 2 && discarded "viewer" told.1 == 1) = true := by
    decide +kernel
  obtain ⟨⟨trace, s⟩, htold, hchecks⟩ := (Option.any_eq_true ..).mp hreplay
  simp only [Bool.and_eq_true, decide_eq_true_eq, beq_iff_eq, List.all_eq_true,
    List.mem_range] at hchecks
  obtain ⟨⟨⟨⟨⟨⟨hsends, hlasting⟩, hlength⟩, hfirst⟩, hover⟩, hrequests⟩, hdiscarded⟩ := hchecks
  have hdid {i : Nat} {deed : Deed} (hi : .did i deed ∈ trace) :
      i < 2 ∧ deed.givesUp = false := by
    have hboth := hsends _ hi
    simp only [sends, Bool.and_eq_true, decide_eq_true_eq, Bool.not_eq_true'] at hboth
    exact hboth.1
  refine ⟨trace, s, run_of_replay htold, ⟨by decide, ?_, ?_, ?_, ?_, hlasting⟩,
    fun _ _ hi => (hdid hi).2, hlength, hfirst, ?_, hrequests, hdiscarded⟩
  · intro call hcall
    exact ⟨stale, eq_of_beq (hsends _ hcall), rfl⟩
  · intro i answer hanswer
    have hmem : answer ∈ hears i trace := List.mem_of_mem_head? hanswer
    obtain ⟨happening, hmem, hheard⟩ := List.mem_filterMap.mp hmem
    obtain ⟨request, rfl⟩ := Happening.eq_of_heardBy? hheard
    have hhears := (hfirst i (hdid hmem).1).2
    rw [hhears] at hanswer
    cases hanswer
    exact ⟨_, rfl, by decide⟩
  · intro i answer hi
    have hboth := hsends _ hi
    simp only [sends, Bool.and_eq_true, bne_self_eq_false, Bool.false_or] at hboth
    cases hverdict : Tokens.verdict answer with
    | ok value => exact ⟨value, rfl⟩
    | error failure =>
        rw [hverdict] at hboth
        cases hboth.2
  · intro i hi
    cases (hdid hi).2
  · intro thread hthread
    obtain ⟨result, hresult⟩ := Option.isSome_iff_exists.mp (hover thread hthread)
    exact ⟨result, Task.eq_done_of_result? hresult⟩

theorem refresh_per_discard_lateRefusal : ∃ trace s,
    (idle ⟨.empty, ⟨0, 0⟩⟩).Run patientProvider trace s ∧ s.threads.length = 2 ∧
      discarded "viewer" trace = 1 ∧
      requests viewer trace = discarded "viewer" trace + 1 := by
  obtain ⟨trace, s, hrun, hturned, hpatient, hlength, -, hover, -, hdiscarded⟩ :=
    exists_lateRefusal
  obtain ⟨-, -, -, -, hrequests⟩ := refresh_per_discard hrun hturned
  refine ⟨trace, s, hrun, hlength, hdiscarded, hrequests ?_ hover fun i deed hi => ?_⟩
  · exact List.ne_nil_of_length_eq_add_one hlength
  · exact not_resigns_of_patient (hpatient i deed hi)

/-- Callers whose first attempts are turned down with the same token may need more than
one new token. -/
theorem not_refresh_once_of_lateRefusal :
    ¬∀ (provider : Provider) (c : Credentials) (scene : Scene) (trace : List Happening)
      (s : System) (token : String),
      (idle scene).Run provider trace s → TurnedDown provider.policy c trace →
      (∀ i deed, .did i deed ∈ trace →
        ¬Resigns provider.policy scene.store.lastRejection deed) →
      2 ≤ s.threads.length →
      (∀ i < s.threads.length, ∃ request, (asks i trace).head? = some request ∧
        request.token = some token) →
      (∀ i < s.threads.length, ∃ response, (hears i trace).head? = some (.ok response) ∧
        400 ≤ response.status ∧ response.status < 500) →
      (∀ thread ∈ s.threads, ∃ result, thread.task = .done result) →
      requests c trace = 1 := by
  intro hone
  obtain ⟨trace, s, hrun, hturned, hpatient, hlength, hfirst, hover, hrequests, -⟩ :=
    exists_lateRefusal
  have hsingle := hone patientProvider viewer ⟨.empty, ⟨0, 0⟩⟩ trace s "stale" hrun hturned
    (fun i deed hi => not_resigns_of_patient (hpatient i deed hi)) (Nat.le_of_eq hlength.symm)
    (fun i hi => ⟨stale, (hfirst i (hlength ▸ hi)).1, rfl⟩)
    (fun i hi => ⟨_, (hfirst i (hlength ▸ hi)).2, by decide, by decide⟩) hover
  rw [hrequests] at hsingle
  cases hsingle

end System
end ProgramGuide
