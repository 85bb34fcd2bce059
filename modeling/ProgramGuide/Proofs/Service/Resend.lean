import ProgramGuide.Proofs.Service.Retry

/-!
# Threads that retry

Where a thread may stand that sends a request and is turned down at first, and what it
does for the store and the service from there.
-/

namespace ProgramGuide

namespace Stampede

variable {policy : TokenPolicy} {c : Credentials} {trace : List Happening}
variable {happening : Happening} {deed : Deed} {i : Nat} {last : Option Int}
variable {get get' : Option IssuedToken} {p p' : Tokens.Point}

/-! ## Places and turns -/

inductive Stands (c : Credentials) (last : Option Int) (trace : List Happening)
    (get : Option IssuedToken) (i : Nat) : Transport.Place → Prop
  | current (hasks : asks i trace = []) (hhears : hears i trace = []) :
      Stands c last trace get i .current
  | age (token) (hasks : asks i trace = []) (hhears : hears i trace = []) :
      Stands c last trace get i (.age token)
  | first {sent waiting} (htoken : sent.token.isSome = true)
      (hasks : waiting = false → asks i trace = []) (hhears : hears i trace = []) :
      Stands c last trace get i (.attempt false sent waiting)
  | discard (sent response) : Stands c last trace get i (.discard sent response)
  | renew {p : Tokens.Point} (sent response) (hamended : Amended trace)
      (h : Renewing c last trace get p) :
      Stands c last trace get i (.renew sent response p)
  | second {sent value} (waiting) (htoken : sent.token = some value)
      (h : Granted c trace value) : Stands c last trace get i (.attempt true sent waiting)

/-- A thread that sends a request for the user, or has done so. -/
inductive Sends (c : Credentials) (last : Option Int) (trace : List Happening)
    (get : Option IssuedToken) (i : Nat) : Member → Prop
  | send {request place} (htoken : request.token.isSome = true)
      (h : Stands c last trace get i place) :
      Sends c last trace get i (.send true c request place)
  | ended (call result) : Sends c last trace get i (.ended call result)

def past : Member → Bool
  | .send _ _ _ (.renew _ _ _) => true
  | .send _ _ _ (.attempt true _ _) => true
  | .ended _ _ => true
  | _ => false

def underwayIn : Member → Bool
  | .send _ _ _ (.renew _ _ p) => underway p
  | _ => false

def pendingIn : Member → Bool
  | .send _ _ _ (.renew _ _ p) => pending p
  | _ => false

inductive Turn (policy : TokenPolicy) (c : Credentials) (last : Option Int)
    (get : Option IssuedToken) : Member → Deed → Member → Prop
  | ordinary {m deed m'} (hdeed : ordinary c deed = true)
      (hpast : past m' = past m ∨ past m' = true ∧ Resigns policy last deed)
      (hunderway : underwayIn m' = underwayIn m)
      (hpending : pendingIn m = true →
        pendingIn m' = true ∨ get.isSome = true ∨ Resigns policy last deed) :
      Turn policy c last get m deed m'
  | ask {m m'} (hholds : m.holds = true) (hpast : past m = true) (hpast' : past m' = true)
      (hunderway : underwayIn m = false) (hunderway' : underwayIn m' = true)
      (hpending : pendingIn m' = true) : Turn policy c last get m (.asked (Tokens.request c)) m'
  | keep {m m' token store} (hget : get = none) (hpast : past m = true)
      (hpast' : past m' = true) (hunderway : underwayIn m = true)
      (hunderway' : underwayIn m' = false) :
      Turn policy c last get m (.amended store (store.insert c.username token)) m'
  | clear {m m' store} (hpast : past m = false) (hpast' : past m' = true)
      (hunderway : underwayIn m = false) (hunderway' : underwayIn m' = false)
      (hpending : pendingIn m' = true) : Turn policy c last get m (.amended store store.clear) m'

theorem ne_request_of_token {sent : Request} (h : sent.token.isSome = true) :
    sent ≠ Tokens.request c := by
  rintro rfl
  cases h

theorem ordinary_asked {sent : Request} (h : sent.token.isSome = true) :
    ordinary c (.asked sent) = true :=
  bne_iff_ne.mpr (ne_request_of_token h)

variable {m m' : Member}

theorem Turn.of_point {sent : Request} {response : Response} {request : Request}
    (h : PointTurn policy c last get p deed p') :
    Turn policy c last get (.send true c request (.renew sent response p)) deed
      (.send true c request (.renew sent response p')) := by
  cases h with
  | ordinary hdeed hunderway hpending => exact .ordinary hdeed (.inl rfl) hunderway hpending
  | ask => exact .ask rfl rfl rfl rfl rfl rfl
  | keep token store hget => exact .keep hget rfl rfl rfl rfl

theorem holds_of_underwayIn (h : underwayIn m = true) : m.holds = true := by
  cases m with
  | send retryAllowed c request place =>
      cases place with
      | renew sent response p =>
          cases p <;> first
            | rfl
            | cases h
      | _ => cases h
  | _ => cases h

theorem past_of_underwayIn (h : underwayIn m = true) : past m = true := by
  cases m with
  | send retryAllowed c request place =>
      cases place with
      | renew => rfl
      | _ => cases h
  | _ => cases h

theorem Turn.lastRejection {scene : Scene} {holder : Option Nat}
    (h : Turn policy c last get m deed m') (hallowed : deed.Allowed scene holder) :
    (deed.scene scene).store.lastRejection = scene.store.lastRejection := by
  cases h with
  | ordinary hdeed =>
      cases deed <;> first
        | rfl
        | cases hdeed
  | ask => rfl
  | @keep _ _ store =>
      obtain rfl : store = scene.store := hallowed
      rfl
  | @clear _ store =>
      obtain rfl : store = scene.store := hallowed
      rfl

theorem Turn.after_eq (h : Turn policy c last get m deed m') :
    after c.username get deed = get ∨ after c.username get deed = none ∨
      underwayIn m = true := by
  cases h with
  | ordinary hdeed =>
      cases deed <;> first
        | exact .inl rfl
        | cases hdeed
  | ask => exact .inl rfl
  | keep _ _ _ hunderway => exact .inr (.inr hunderway)
  | clear => exact .inr (.inl rfl)

variable {request : Request} {place place' : Transport.Place}

theorem Stands.next (h : Stands c last trace get i place)
    (hnext : place.Next policy true c request deed place')
    (htoken : request.token.isSome = true)
    (hturned : TurnedDown policy c (trace ++ [.did i deed]))
    (hknows : Knows c last trace get deed) :
    Stands c last (trace ++ [.did i deed]) (after c.username get deed) i place' ∧
      Turn policy c last get (.send true c request place) deed
        (.send true c request place') := by
  cases hnext with
  | absent =>
      cases h with
      | current hasks hhears =>
          exact ⟨.first htoken (fun _ => asks_of_quiet rfl hasks) (hears_of_ne nofun hhears),
            .ordinary rfl (.inl rfl) rfl nofun⟩
  | @present store token =>
      cases h with
      | current hasks hhears =>
          exact ⟨.age token (asks_of_quiet rfl hasks) (hears_of_ne nofun hhears),
            .ordinary rfl (.inl rfl) rfl nofun⟩
  | stale =>
      cases h with
      | age token hasks hhears =>
          exact ⟨.first htoken (fun _ => asks_of_quiet rfl hasks) (hears_of_ne nofun hhears),
            .ordinary rfl (.inl rfl) rfl nofun⟩
  | fresh =>
      cases h with
      | age token hasks hhears =>
          exact ⟨.first rfl (fun _ => asks_of_quiet rfl hasks) (hears_of_ne nofun hhears),
            .ordinary rfl (.inl rfl) rfl nofun⟩
  | ask last sent =>
      cases h with
      | first htoken hasks hhears =>
          exact ⟨.first htoken nofun (hears_of_ne nofun hhears),
            .ordinary (ordinary_asked htoken) (.inl rfl) rfl nofun⟩
      | second _ htoken h =>
          exact ⟨.second true htoken h.concat,
            .ordinary (ordinary_asked (by rw [htoken]; rfl)) (.inl rfl) rfl nofun⟩
  | @refused response sent =>
      exact ⟨.discard sent response, .ordinary rfl (.inl rfl) rfl nofun⟩
  | discard sent response store =>
      exact ⟨.renew sent response ⟨i, store, store.clear, by simp⟩ (.tokens false),
        .clear rfl rfl rfl rfl rfl⟩
  | renew sent response hp =>
      cases h with
      | renew _ _ hamended h =>
          obtain ⟨hrenewing, hturn⟩ := h.next hp hturned hknows hamended
          exact ⟨.renew sent response hamended.concat hrenewing, .of_point hturn⟩
  | renewed sent response hp =>
      cases h with
      | renew _ _ hamended h =>
          obtain ⟨hunderway, hgranted, hpending⟩ := h.ends hp hknows
          refine ⟨.second false rfl (hgranted _ rfl).concat, ?_⟩
          refine .ordinary ?_ (.inl rfl) hunderway.symm fun h => .inr (.inr (hpending h))
          cases hp <;> rfl

theorem Stands.ends {result : Except Failure Response} {call : Call}
    {answer : Except Failure Answer} (h : Stands c last trace get i place)
    (hends : place.Ends policy true c deed result)
    (hturned : TurnedDown policy c (trace ++ [.did i deed]))
    (hknows : Knows c last trace get deed) :
    Turn policy c last get (.send true c request place) deed (.ended call answer) := by
  have hpoint {p : Tokens.Point} {sent : Request} {response : Response}
      {result : Except Failure (Option String)}
      (h : Stands c last trace get i (.renew sent response p))
      (hends : p.Ends policy deed result) :
      Turn policy c last get (.send true c request (.renew sent response p)) deed
        (.ended call answer) := by
    cases h with
    | renew _ _ _ h =>
        obtain ⟨hunderway, -, hpending⟩ := h.ends hends hknows
        refine .ordinary ?_ (.inl rfl) hunderway.symm fun h => .inr (.inr (hpending h))
        cases hends <;> rfl
  cases hends with
  | abandon last sent waiting => exact .ordinary rfl (.inr ⟨rfl, rfl⟩) rfl nofun
  | broken =>
      cases h with
      | first _ _ hhears =>
          obtain ⟨response, hresponse, -⟩ := hturned.refused_last rfl hhears
          cases hresponse
  | final _ hretry =>
      cases h with
      | first _ _ hhears =>
          obtain ⟨response, hresponse, hmay⟩ := hturned.refused_last rfl hhears
          cases hresponse
          rw [hmay] at hretry
          cases hretry
  | last => exact .ordinary rfl (.inl rfl) rfl nofun
  | incomplete _ _ _ hcomplete =>
      rw [hturned.complete] at hcomplete
      cases hcomplete
  | tokenless _ _ hp => exact hpoint h hp
  | failed _ _ hp => exact hpoint h hp

theorem Sends.next (h : Sends c last trace get i m) (hnext : m.Next policy deed m')
    (hturned : TurnedDown policy c (trace ++ [.did i deed]))
    (hknows : Knows c last trace get deed) :
    Sends c last (trace ++ [.did i deed]) (after c.username get deed) i m' ∧
      Turn policy c last get m deed m' := by
  cases h with
  | send htoken h =>
      cases hnext with
      | send hplace =>
          obtain ⟨hstands, hturn⟩ := h.next hplace htoken hturned hknows
          exact ⟨.send htoken hstands, hturn⟩
      | sent hplace => exact ⟨.ended _ _, h.ends hplace hturned hknows⟩
  | ended => cases hnext

theorem Sends.mono (h : Sends c last trace get i m)
    (hasked : happening.askedBy? i = none) (hheard : happening.heardBy? i = none)
    (hother : get' = get ∨ get' = none ∨ m.holds = false) :
    Sends c last (trace ++ [happening]) get' i m := by
  have hasks : asks i (trace ++ [happening]) = asks i trace := by simp [asks_concat, hasked]
  have hhears : hears i (trace ++ [happening]) = hears i trace := by
    simp [hears_concat, hheard]
  cases h with
  | ended call result => exact .ended call result
  | send htoken h =>
      refine .send htoken ?_
      cases h with
      | current h h' => exact .current (hasks.trans h) (hhears.trans h')
      | age token h h' => exact .age token (hasks.trans h) (hhears.trans h')
      | first htoken h h' =>
          exact .first htoken (fun hwaiting => hasks.trans (h hwaiting)) (hhears.trans h')
      | discard sent response => exact .discard sent response
      | renew sent response hamended h =>
          exact .renew sent response hamended.concat (h.mono hother)
      | second waiting htoken h => exact .second waiting htoken h.concat

/-- A request that is not the first of a thread is for a token or carries a new one. -/
theorem Sends.retry (h : Sends c last trace get i m) {sent : Request}
    (hnext : m.Next policy (.asked sent) m') :
    asks i trace = [] ∨ sent = Tokens.request c ∨
      ∃ value, sent.token = some value ∧ Granted c trace value := by
  cases h with
  | ended => cases hnext
  | send htoken h =>
      cases hnext with
      | sent hends =>
          cases hends with
          | tokenless _ _ hp => cases hp
          | failed _ _ hp => cases hp
      | send hplace =>
          cases hplace with
          | ask last sent =>
              cases h with
              | first _ hasks => exact .inl (hasks rfl)
              | second _ htoken h => exact .inr (.inr ⟨_, htoken, h⟩)
          | renew _ _ hp =>
              cases hp
              exact .inr (.inl rfl)
          | renewed _ _ hp => cases hp

theorem Sends.granted (h : Sends c last trace get i m) {before store : TokenStore}
    {token : IssuedToken} (hnext : m.Next policy (.amended before store) m')
    (hget : store.get? c.username = some token) : Granted c trace token.value := by
  cases h with
  | ended => cases hnext
  | send htoken h =>
      cases hnext with
      | sent hends =>
          cases hends with
          | tokenless _ _ hp => cases hp
          | failed _ _ hp => cases hp
          | incomplete => cases hget
      | send hplace =>
          cases hplace with
          | discard => cases hget
          | renewed _ _ hp => cases hp
          | renew _ _ hp =>
              cases h with
              | renew _ _ _ h =>
                  cases hp with
                  | keep =>
                      cases h with
                      | keep _ h =>
                          rw [TokenStore.get?_insert, if_pos rfl] at hget
                          cases hget
                          exact h
                  | drop => cases h
                  | reject => cases h
theorem Sends.of_pendingIn (h : Sends c last trace get i m) (hpending : pendingIn m = true) :
    Amended trace := by
  cases h with
  | send _ h =>
      cases h with
      | renew _ _ hamended => exact hamended
      | _ => cases hpending
  | ended => cases hpending

theorem Sends.get_of_underwayIn (h : Sends c last trace get i m)
    (hunderway : underwayIn m = true) : get = none := by
  cases h with
  | send _ h =>
      cases h with
      | renew _ _ _ h =>
          cases h with
          | ask _ hget => exact hget
          | stamp hget => exact hget
          | keep hget => exact hget
          | _ => cases hunderway
      | _ => cases hunderway
  | ended => cases hunderway

theorem Sends.holds_of_task {next : Except Failure Response → Task (Except Failure Answer)}
    (h : Sends c last trace get i m)
    (htask : m.task policy = .exchange (Tokens.request c) next) : m.holds = true := by
  cases h with
  | ended => cases htask
  | @send request place _ h =>
      obtain ⟨next, hplace⟩ := Task.exists_exchange_of_bind place.task_ne_done htask
      cases h with
      | first hsent =>
          cases hplace
          cases hsent
      | second _ hsent =>
          cases hplace
          cases hsent
      | @renew p _ _ _ h =>
          obtain ⟨next, hpoint⟩ := Task.exists_exchange_of_bind p.task_ne_done hplace
          cases h <;> rw [Tokens.Point.task] at hpoint <;> first
            | rfl
            | cases hpoint
      | _ => cases hplace

end Stampede
end ProgramGuide
