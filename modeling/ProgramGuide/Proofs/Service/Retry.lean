import Mathlib.Data.List.TakeWhile
import ProgramGuide.Proofs.Service.Crowd

/-!
# Retries

Callers send requests for one user and are turned down at first.  Each then empties the
store and gets a token anew, with which it sends its request once more.
-/

namespace ProgramGuide

namespace Happening

def askedBy? (i : Nat) : Happening → Option Request
  | did j (.asked request) => if j = i then some request else none
  | _ => none

def heardBy? (i : Nat) : Happening → Option (Except Failure Response)
  | did j (.heard _ answer) => if j = i then some answer else none
  | _ => none

def stores (user : String) (happening : Happening) : Bool :=
  (happening.stored? user).isSome

def discards (user : String) : Happening → Bool
  | did _ (.amended before after) => (before.get? user).isSome && (after.get? user).isNone
  | _ => false

variable {happening : Happening} {user : String} {i : Nat} {deed : Deed}

theorem askedBy?_of_ne {j : Nat} (hij : j ≠ i) : (did i deed).askedBy? j = none := by
  cases deed <;> first
    | rfl
    | exact if_neg (Ne.symm hij)

theorem heardBy?_of_ne {j : Nat} (hij : j ≠ i) : (did i deed).heardBy? j = none := by
  cases deed <;> first
    | rfl
    | exact if_neg (Ne.symm hij)

theorem eq_of_askedBy? {request : Request} (h : happening.askedBy? i = some request) :
    happening = did i (.asked request) := by
  cases happening with
  | did j deed =>
      cases deed with
      | asked sent =>
          simp only [askedBy?, Option.ite_none_right_eq_some, Option.some.injEq] at h
          obtain ⟨rfl, rfl⟩ := h
          rfl
      | _ => cases h
  | _ => cases h

theorem eq_of_heardBy? {answer : Except Failure Response}
    (h : happening.heardBy? i = some answer) :
    ∃ request, happening = did i (.heard request answer) := by
  cases happening with
  | did j deed =>
      cases deed with
      | heard request told =>
          simp only [heardBy?, Option.ite_none_right_eq_some, Option.some.injEq] at h
          obtain ⟨rfl, rfl⟩ := h
          exact ⟨request, rfl⟩
      | _ => cases h
  | _ => cases h

theorem not_discards_of_stores (h : happening.stores user = true) :
    happening.discards user = false := by
  cases happening with
  | did i deed =>
      cases deed with
      | amended before after =>
          have hsome : (after.get? user).isSome = true := h
          simp [discards, ← Option.not_isSome, hsome]
      | _ => rfl
  | _ => rfl

end Happening

namespace Stampede

/-! ## Histories -/

def asks (i : Nat) (trace : List Happening) : List Request :=
  trace.filterMap (Happening.askedBy? i)

def hears (i : Nat) (trace : List Happening) : List (Except Failure Response) :=
  trace.filterMap (Happening.heardBy? i)

def requests (c : Credentials) (trace : List Happening) : Nat :=
  trace.countP fun happening => happening.asked? == some (Tokens.request c)

def kept (user : String) (trace : List Happening) : Nat :=
  trace.countP (·.stores user)

/-- How many tokens have been thrown away since the first was stored. -/
def discarded (user : String) (trace : List Happening) : Nat :=
  (trace.dropWhile fun happening => !happening.stores user).countP (·.discards user)

def Granted (c : Credentials) (trace : List Happening) (value : String) : Prop :=
  ∃ i answer, .did i (.heard (Tokens.request c) answer) ∈ trace ∧
    Tokens.verdict answer = .ok value

def Issued (user : String) (trace : List Happening) (token : IssuedToken) : Prop :=
  ∃ i before after, .did i (.amended before after) ∈ trace ∧ after.get? user = some token

def Amended (trace : List Happening) : Prop :=
  ∃ i before after, .did i (.amended before after) ∈ trace

variable {policy : TokenPolicy} {c : Credentials} {trace : List Happening}
variable {happening : Happening} {user : String}

theorem asks_concat (i : Nat) : asks i (trace ++ [happening]) =
    asks i trace ++ (happening.askedBy? i).toList := by
  unfold asks
  rw [List.filterMap_append]
  cases h : happening.askedBy? i <;> simp [h]

theorem hears_concat (i : Nat) : hears i (trace ++ [happening]) =
    hears i trace ++ (happening.heardBy? i).toList := by
  unfold hears
  rw [List.filterMap_append]
  cases h : happening.heardBy? i <;> simp [h]

theorem requests_concat : requests c (trace ++ [happening]) =
    requests c trace + if happening.asked? = some (Tokens.request c) then 1 else 0 := by
  unfold requests
  rw [List.countP_append]
  simp [List.countP_cons]

theorem kept_concat : kept user (trace ++ [happening]) =
    kept user trace + (happening.stores user).toNat := by
  unfold kept
  rw [List.countP_append]
  cases h : happening.stores user <;> simp [h]

theorem discarded_concat : discarded user (trace ++ [happening]) =
    discarded user trace +
      if 0 < kept user trace ∧ happening.discards user = true then 1 else 0 := by
  unfold discarded kept
  rw [List.dropWhile_append]
  by_cases hstored : 0 < trace.countP (·.stores user)
  · have hne : (trace.dropWhile fun happening => !happening.stores user).isEmpty = false := by
      rw [List.isEmpty_eq_false_iff, Ne, List.dropWhile_eq_nil_iff]
      obtain ⟨stored, hmem, hstores⟩ := List.countP_pos_iff.mp hstored
      exact fun hall => by simpa [hstores] using hall stored hmem
    simp [hne, hstored, List.countP_cons]
  · have hempty : (trace.dropWhile fun happening => !happening.stores user) = [] := by
      rw [List.dropWhile_eq_nil_iff]
      intro other hmem
      rw [Bool.not_eq_true', ← Bool.not_eq_true]
      exact fun hstores => hstored (List.countP_pos_iff.mpr ⟨other, hmem, hstores⟩)
    have hlast : ([happening].dropWhile fun happening => !happening.stores user).countP
        (·.discards user) = 0 := by
      cases hstores : happening.stores user with
      | false => simp [hstores]
      | true => simp [hstores, Happening.not_discards_of_stores hstores]
    rw [hempty]
    simp [hlast, hstored]

theorem Granted.concat {value : String} (h : Granted c trace value) :
    Granted c (trace ++ [happening]) value := by
  obtain ⟨i, answer, hi, hverdict⟩ := h
  exact ⟨i, answer, List.mem_append_left _ hi, hverdict⟩

theorem Issued.concat {token : IssuedToken} (h : Issued user trace token) :
    Issued user (trace ++ [happening]) token := by
  obtain ⟨i, before, after, hi, hafter⟩ := h
  exact ⟨i, before, after, List.mem_append_left _ hi, hafter⟩

theorem Amended.concat (h : Amended trace) : Amended (trace ++ [happening]) := by
  obtain ⟨i, before, after, hi⟩ := h
  exact ⟨i, before, after, List.mem_append_left _ hi⟩

theorem Amended.of_concat (h : Amended (trace ++ [happening]))
    (hne : ∀ i before after, happening ≠ .did i (.amended before after)) : Amended trace := by
  obtain ⟨i, before, after, hi⟩ := h
  rcases List.mem_append.mp hi with hi | hi
  · exact ⟨i, before, after, hi⟩
  · exact absurd (List.mem_singleton.mp hi).symm (hne i before after)

theorem kept_pos {token : IssuedToken} (h : Issued user trace token) :
    0 < kept user trace := by
  obtain ⟨i, before, after, hi, hafter⟩ := h
  refine List.countP_pos_iff.mpr ⟨_, hi, ?_⟩
  simp [Happening.stores, Happening.stored?, hafter]

variable {deed : Deed} {i : Nat}

theorem asks_of_quiet (h : deed.quiet = true) (hasks : asks i trace = []) :
    asks i (trace ++ [.did i deed]) = [] := by
  rw [asks_concat, hasks]
  cases deed <;> first
    | rfl
    | cases h

theorem hears_of_ne {j : Nat} (h : ∀ request answer, deed ≠ .heard request answer)
    (hhears : hears i trace = []) : hears i (trace ++ [.did j deed]) = [] := by
  rw [hears_concat, hhears]
  cases deed with
  | heard request answer => exact absurd rfl (h request answer)
  | _ => rfl

/-! ## Callers who are turned down -/

/-- Sends for one user's requests, which carry tokens.  All first attempts are turned
down, while every token that is asked for is granted and lasts. -/
structure TurnedDown (policy : TokenPolicy) (c : Credentials) (trace : List Happening) :
    Prop where
  complete : c.isComplete = true
  calls : ∀ call, .begun call ∈ trace →
    ∃ request, call = .send true c request ∧ request.token.isSome = true
  refused : ∀ i answer, (hears i trace).head? = some answer →
    ∃ response, answer = .ok response ∧ Transport.mayRetry true response = true
  granted : ∀ i answer, .did i (.heard (Tokens.request c) answer) ∈ trace →
    ∃ value, Tokens.verdict answer = .ok value
  awaited : ∀ i, .did i (.cancelled (Tokens.request c)) ∉ trace
  lasting : trace.Pairwise (Refresh.Lasts policy c.username)

/-- A caller gives up what it waits for, or reads the clock within a cool-down. -/
def Resigns (policy : TokenPolicy) (last : Option Int) : Deed → Prop
  | .read now => ∃ since, last = some since ∧ TokenStore.coolingDown policy since now = true
  | deed => deed.givesUp = true

theorem not_resigns_of_patient (h : deed.givesUp = false) : ¬Resigns policy none deed := by
  cases deed with
  | read now =>
      rintro ⟨since, hsince, -⟩
      cases hsince
  | _ => exact Bool.not_eq_true _ ▸ h

theorem TurnedDown.of_append {rest : List Happening}
    (h : TurnedDown policy c (trace ++ rest)) : TurnedDown policy c trace where
  complete := h.complete
  calls call hcall := h.calls call (List.mem_append_left _ hcall)
  refused i answer hanswer := by
    refine h.refused i answer ?_
    unfold hears at hanswer ⊢
    rw [List.filterMap_append, List.head?_append, hanswer]
    rfl
  granted i answer hi := h.granted i answer (List.mem_append_left _ hi)
  awaited i hi := h.awaited i (List.mem_append_left _ hi)
  lasting := (List.pairwise_append.mp h.lasting).1

section Last

variable (h : TurnedDown policy c (trace ++ [.did i deed]))

include h

theorem TurnedDown.fresh_last (now : Instant) (token : IssuedToken) (hnow : deed = .read now)
    (hissued : Issued c.username trace token) :
    TokenStore.isFresh policy token now = true := by
  obtain ⟨j, before, after, hj, hafter⟩ := hissued
  have hlasts := (List.pairwise_append.mp h.lasting).2.2 _ hj (.did i deed) (by simp)
  subst hnow
  exact TokenStore.isFresh_iff.mpr (hlasts token hafter now rfl)

theorem TurnedDown.granted_last (answer : Except Failure Response)
    (hheard : deed = .heard (Tokens.request c) answer) :
    ∃ value, Tokens.verdict answer = .ok value :=
  h.granted i answer (by simp [hheard])

theorem TurnedDown.awaited_last : deed ≠ .cancelled (Tokens.request c) := fun hdeed =>
  h.awaited i (by simp [hdeed])

theorem TurnedDown.refused_last {request : Request} {answer : Except Failure Response}
    (hheard : deed = .heard request answer) (hhears : hears i trace = []) :
    ∃ response, answer = .ok response ∧ Transport.mayRetry true response = true := by
  refine h.refused i answer ?_
  rw [hears_concat, hhears, hheard]
  simp [Happening.heardBy?]

end Last

variable {last : Option Int} {get get' : Option IssuedToken}

/-- What is known of the store when a deed is done.  Once it has been amended it holds
what has been stored since. -/
structure Knows (c : Credentials) (last : Option Int) (trace : List Happening)
    (get : Option IssuedToken) (deed : Deed) : Prop where
  looked : ∀ store, deed = .looked store →
    store.get? c.username = get ∧ store.lastRejection = last
  stored : Amended trace → ∀ token, get = some token → Issued c.username trace token
  granted : ∀ token, Issued c.username trace token → Granted c trace token.value

/-! ## Getting a token anew -/

def after (user : String) (get : Option IssuedToken) : Deed → Option IssuedToken
  | .amended _ store => store.get? user
  | _ => get

/-- The deed leaves the store alone and asks for no token. -/
def ordinary (c : Credentials) : Deed → Bool
  | .amended _ _ => false
  | .asked request => request != Tokens.request c
  | _ => true

def underway : Tokens.Point → Bool
  | .ask waiting => waiting
  | .stamp _ => true
  | .keep _ => true
  | _ => false

def pending : Tokens.Point → Bool
  | .age _ _ => false
  | .release _ => false
  | .drop => false
  | .mark => false
  | .reject _ => false
  | _ => true

/-- Where a caller may stand who gets a token anew.  Between its second look and the
moment it stores a token the store holds none for its user. -/
inductive Renewing (c : Credentials) (last : Option Int) (trace : List Happening)
    (get : Option IssuedToken) : Tokens.Point → Prop
  | tokens (held) : Renewing c last trace get (.tokens held)
  | age {token} (held) (h : Issued c.username trace token) :
      Renewing c last trace get (.age held token)
  | rejection : Renewing c last trace get (.rejection false)
  | rejectionLocked (hget : get = none) : Renewing c last trace get (.rejection true)
  | cooldown {since} (h : last = some since) : Renewing c last trace get (.cooldown false since)
  | cooldownLocked {since} (h : last = some since) (hget : get = none) :
      Renewing c last trace get (.cooldown true since)
  | queue : Renewing c last trace get .queue
  | ask (waiting) (hget : get = none) : Renewing c last trace get (.ask waiting)
  | stamp {value} (hget : get = none) (h : Granted c trace value) :
      Renewing c last trace get (.stamp value)
  | keep {token : IssuedToken} (hget : get = none) (h : Granted c trace token.value) :
      Renewing c last trace get (.keep token)
  | release {value} (h : Granted c trace value) :
      Renewing c last trace get (.release (.ok (some value)))
  | without : Renewing c last trace get (.release (.ok none))

/-- What a caller does for the store and the service on its way to a token. -/
inductive PointTurn (policy : TokenPolicy) (c : Credentials) (last : Option Int)
    (get : Option IssuedToken) : Tokens.Point → Deed → Tokens.Point → Prop
  | ordinary {p deed p'} (hdeed : ordinary c deed = true)
      (hunderway : underway p' = underway p)
      (hpending : pending p = true →
        pending p' = true ∨ get.isSome = true ∨ Resigns policy last deed) :
      PointTurn policy c last get p deed p'
  | ask : PointTurn policy c last get (.ask false) (.asked (Tokens.request c)) (.ask true)
  | keep (token store) (hget : get = none) :
      PointTurn policy c last get (.keep token)
        (.amended store (store.insert c.username token)) (.release (.ok (some token.value)))

variable {p p' : Tokens.Point}

/-- The others may do no more to the store than to empty it, but for who has the lock. -/
theorem Renewing.mono (h : Renewing c last trace get p)
    (hother : get' = get ∨ get' = none ∨ p.holds = false) :
    Renewing c last (trace ++ [happening]) get' p := by
  have hnone (hnone : get = none) (hholds : p.holds = true) : get' = none := by
    obtain rfl | hget' | hfree := hother
    · exact hnone
    · exact hget'
    · rw [hfree] at hholds
      cases hholds
  cases h with
  | tokens held => exact .tokens held
  | age held h => exact .age held h.concat
  | rejection => exact .rejection
  | rejectionLocked h => exact .rejectionLocked (hnone h rfl)
  | cooldown h => exact .cooldown h
  | cooldownLocked h hget => exact .cooldownLocked h (hnone hget rfl)
  | queue => exact .queue
  | ask waiting h => exact .ask waiting (hnone h rfl)
  | stamp h hgranted => exact .stamp (hnone h rfl) hgranted.concat
  | keep h hgranted => exact .keep (hnone h rfl) hgranted.concat
  | release h => exact .release h.concat
  | without => exact .without

theorem Renewing.next (h : Renewing c last trace get p) (hnext : p.Next policy c deed p')
    (hturned : TurnedDown policy c (trace ++ [.did i deed]))
    (hknows : Knows c last trace get deed) (hamended : Amended trace) :
    Renewing c last (trace ++ [.did i deed]) (after c.username get deed) p' ∧
      PointTurn policy c last get p deed p' := by
  cases hnext with
  | @absent store held hnone =>
      rw [(hknows.looked _ rfl).1] at hnone
      refine ⟨?_, .ordinary rfl rfl fun _ => .inl rfl⟩
      cases held with
      | false => exact .rejection
      | true => exact .rejectionLocked hnone
  | @present store token held hsome =>
      rw [(hknows.looked _ rfl).1] at hsome
      refine ⟨.age held (hknows.stored hamended token hsome).concat,
        .ordinary rfl rfl fun _ => .inr (.inl ?_)⟩
      rw [hsome]
      rfl
  | stale held hstale =>
      cases h with
      | age _ hissued =>
          rw [hturned.fresh_last _ _ rfl hissued] at hstale
          cases hstale
  | fresh =>
      cases h with
      | age _ h => exact ⟨.release (hknows.granted _ h).concat, .ordinary rfl rfl nofun⟩
  | @since store since held hsince =>
      rw [(hknows.looked _ rfl).2] at hsince
      refine ⟨?_, .ordinary rfl rfl fun _ => .inl rfl⟩
      cases h with
      | rejection => exact .cooldown hsince
      | rejectionLocked hget => exact .cooldownLocked hsince hget
  | cooling hcool =>
      cases h with
      | cooldownLocked hlast =>
          exact ⟨.without, .ordinary rfl rfl fun _ => .inr (.inr ⟨_, hlast, hcool⟩)⟩
  | never => exact ⟨.queue, .ordinary rfl rfl fun _ => .inl rfl⟩
  | warm => exact ⟨.queue, .ordinary rfl rfl fun _ => .inl rfl⟩
  | enter => exact ⟨.tokens true, .ordinary rfl rfl fun _ => .inl rfl⟩
  | neverLocked =>
      cases h with
      | rejectionLocked hget => exact ⟨.ask false hget, .ordinary rfl rfl fun _ => .inl rfl⟩
  | warmLocked =>
      cases h with
      | cooldownLocked _ hget => exact ⟨.ask false hget, .ordinary rfl rfl fun _ => .inl rfl⟩
  | ask =>
      cases h with
      | ask _ hget => exact ⟨.ask true hget, .ask⟩
  | @granted answer value hverdict =>
      cases h with
      | ask _ hget =>
          exact ⟨.stamp hget ⟨i, answer, by simp, hverdict⟩,
            .ordinary rfl rfl fun _ => .inl rfl⟩
  | rejected hverdict =>
      obtain ⟨value, hvalue⟩ := hturned.granted_last _ rfl
      rw [hvalue] at hverdict
      cases hverdict
  | failed hverdict =>
      obtain ⟨value, hvalue⟩ := hturned.granted_last _ rfl
      rw [hvalue] at hverdict
      cases hverdict
  | abandon => exact absurd rfl hturned.awaited_last
  | stamp value now =>
      cases h with
      | stamp hget h =>
          exact ⟨.keep hget h.concat, .ordinary rfl rfl fun _ => .inl rfl⟩
  | keep token store =>
      cases h with
      | keep hget h => exact ⟨.release h.concat, .keep token store hget⟩
  | drop => cases h
  | mark => cases h
  | reject => cases h

theorem Renewing.ends {result : Except Failure (Option String)}
    (h : Renewing c last trace get p) (hends : p.Ends policy deed result)
    (hknows : Knows c last trace get deed) :
    underway p = false ∧ (∀ value, result = .ok (some value) → Granted c trace value) ∧
      (pending p = true → Resigns policy last deed) := by
  cases hends with
  | fresh =>
      cases h with
      | age _ h =>
          refine ⟨rfl, fun value hvalue => ?_, nofun⟩
          cases hvalue
          exact hknows.granted _ h
  | cooling hcool =>
      cases h with
      | cooldown hlast => exact ⟨rfl, nofun, fun _ => ⟨_, hlast, hcool⟩⟩
  | leave => exact ⟨rfl, nofun, fun _ => rfl⟩
  | release =>
      cases h with
      | release h =>
          refine ⟨rfl, fun value hvalue => ?_, nofun⟩
          cases hvalue
          exact h
      | without => exact ⟨rfl, nofun, nofun⟩

end Stampede

end ProgramGuide
