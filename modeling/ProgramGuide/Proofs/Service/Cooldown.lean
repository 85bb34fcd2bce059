import ProgramGuide.Proofs.Service.System

/-!
# Cool-downs

During a cool-down the store is empty.  It is emptied when the cool-down starts, and no
token enters it before the end: who holds the refresh lock has seen that there is no
cool-down, and only the holder of the lock can start one.
-/

namespace ProgramGuide

def Scene.inCooldown (policy : TokenPolicy) (s : Scene) : Bool :=
  s.store.inCooldown policy s.now

def System.inCooldown (policy : TokenPolicy) (s : System) : Bool :=
  s.scene.inCooldown policy

/-- There are no tokens during a cool-down. -/
def Scene.Quiet (policy : TokenPolicy) (s : Scene) : Prop :=
  s.inCooldown policy = true → s.store.tokens = []

namespace Cooldown

variable {policy : TokenPolicy} {held : Bool} {s s' : Scene}
variable {own : Request → Prop}

structure Rely (policy : TokenPolicy) (held : Bool) (s s' : Scene) : Prop where
  quiet : s'.Quiet policy
  later : s.now.milliseconds ≤ s'.now.milliseconds
  /-- Without the lock the others can do no more than to empty the store. -/
  locked : held = true → s'.store = s.store ∨ s'.store = s.store.clear

structure MayAmend (policy : TokenPolicy) (held : Bool) (s : Scene) (store : TokenStore) :
    Prop where
  quiet : Scene.Quiet policy { s with store }
  unlocked : held = false → store = s.store ∨ store = s.store.clear
  /-- A cool-down is not extended. -/
  cooling : s.inCooldown policy = true → store.lastRejection = s.store.lastRejection

/-- No token is asked for during a cool-down, unless the caller itself does. -/
def contract (policy : TokenPolicy) (own : Request → Prop) : Contract where
  rely := Rely policy
  mayAmend := MayAmend policy
  mayLock _ := True
  mayAsk _ s request :=
    request.path = "token" → own request ∨ s.inCooldown policy = false

theorem inCooldown_eq (s : Scene) :
    s.inCooldown policy =
      s.store.lastRejection.any fun since => TokenStore.coolingDown policy since s.now :=
  rfl

/-! ## What others do -/

theorem coolingDown_of_le {since : Int} {a b : Instant}
    (hle : a.milliseconds ≤ b.milliseconds)
    (h : TokenStore.coolingDown policy since b = true) :
    TokenStore.coolingDown policy since a = true := by
  unfold TokenStore.coolingDown at h ⊢
  simp only [decide_eq_true_eq] at h ⊢
  omega

/-- A cool-down that is over stays over while the last rejection is the same. -/
theorem inCooldown_of_le (hle : s.now.milliseconds ≤ s'.now.milliseconds)
    (hsame : s'.store.lastRejection = s.store.lastRejection)
    (h : s.inCooldown policy = false) : s'.inCooldown policy = false := by
  rw [inCooldown_eq] at h ⊢
  rw [hsame]
  cases hlast : s.store.lastRejection with
  | none => rfl
  | some since =>
      rw [hlast] at h
      simp only [Option.any_some] at h ⊢
      rw [Bool.eq_false_iff] at h ⊢
      exact fun hcool => h (coolingDown_of_le hle hcool)

theorem Rely.trans {a b c : Scene} (hab : Rely policy held a b)
    (hbc : Rely policy held b c) : Rely policy held a c where
  quiet := hbc.quiet
  later := Int.le_trans hab.later hbc.later
  locked hheld := by
    rcases hab.locked hheld with hb | hb <;> rcases hbc.locked hheld with hc | hc
    · exact .inl (hc.trans hb)
    · exact .inr (by rw [hc, hb])
    · exact .inr (hc.trans hb)
    · exact .inr (by rw [hc, hb]; rfl)

theorem Rely.lastRejection (h : Rely policy true s s') :
    s'.store.lastRejection = s.store.lastRejection := by
  rcases h.locked rfl with hstore | hstore <;> rw [hstore]
  rfl

theorem Rely.warm (h : Rely policy true s s') (hs : s.inCooldown policy = false) :
    s'.inCooldown policy = false :=
  inCooldown_of_le h.later h.lastRejection hs

theorem balanced {passes : Instant → Instant → Bool}
    (hpasses : ∀ a b, passes a b = true → a.milliseconds ≤ b.milliseconds) :
    (contract policy own).Balanced (Scene.Quiet policy) passes where
  refl hs := ⟨hs, Int.le_refl _, fun _ => .inl rfl⟩
  trans := Rely.trans
  keeps := Rely.quiet
  elapse {held s now} hs hnow := by
    have hle := hpasses _ _ hnow
    refine ⟨fun hcool => ?_, hle, fun _ => .inl rfl⟩
    cases hs' : s.inCooldown policy with
    | true => exact hs hs'
    | false =>
        have hwarm : Scene.inCooldown policy { s with now } = false :=
          inCooldown_of_le hle rfl hs'
        rw [hwarm] at hcool
        cases hcool
  amend {held other s store} hs hstore hlock := by
    refine ⟨hstore.quiet, Int.le_refl _, fun hother => ?_⟩
    subst hother
    exact hstore.unlocked (by simpa using hlock)

/-! ## What calls do -/

section Calls

open Operation

variable {c : Credentials}

theorem current_meets {post : Except Failure (Option String) → Bool → Scene → Prop}
    {username : String}
    (hpost : ∀ s' token, Rely policy held s s' → post (.ok token) held s') :
    (Tokens.current policy username).Meets (contract policy own) post held s := by
  unfold Tokens.current
  rw [meets_bind, meets_store]
  intro s₁ h₁
  dsimp only
  cases s₁.store.get? username with
  | none => exact hpost s₁ none h₁
  | some token =>
      rw [meets_bind, meets_now]
      intro s₂ h₂
      exact hpost s₂ _ (Rely.trans h₁ h₂)

theorem inCooldown_meets {post : Except Failure Bool → Bool → Scene → Prop}
    (hpost : ∀ s' cooling, Rely policy held s s' →
      (held = true → s'.inCooldown policy = cooling) → post (.ok cooling) held s') :
    (Tokens.inCooldown policy).Meets (contract policy own) post held s := by
  unfold Tokens.inCooldown
  rw [meets_bind, meets_store]
  intro s₁ h₁
  dsimp only
  cases hlast : s₁.store.lastRejection with
  | none =>
      refine hpost s₁ false h₁ fun _ => ?_
      rw [inCooldown_eq, hlast]
      rfl
  | some since =>
      rw [meets_bind, meets_now]
      intro s₂ h₂
      refine hpost s₂ _ (Rely.trans h₁ h₂) fun hheld => ?_
      subst hheld
      rw [inCooldown_eq, Rely.lastRejection h₂, hlast]
      rfl

/-- A look under the lock that settles nothing has seen that there is no cool-down. -/
theorem look_meets {post : Except Failure (Option (Option String)) → Bool → Scene → Prop}
    (hpost : ∀ s' settled, Rely policy held s s' →
      (held = true → settled = none → s'.inCooldown policy = false) →
      post (.ok settled) held s') :
    (Tokens.look policy c).Meets (contract policy own) post held s := by
  unfold Tokens.look
  rw [meets_bind]
  refine current_meets fun s₁ token h₁ => ?_
  cases token with
  | some token => exact hpost s₁ _ h₁ (by simp)
  | none =>
      dsimp only
      rw [meets_bind]
      refine inCooldown_meets fun s₂ cooling h₂ hcooling => ?_
      refine hpost s₂ _ (h₁.trans h₂) fun hheld hsettled => ?_
      rw [hcooling hheld]
      simpa using hsettled

theorem authenticate_meets {post : Except Failure String → Bool → Scene → Prop}
    (hs : s.inCooldown policy = false)
    (hpost : ∀ s' result, Rely policy true s s' → post result true s') :
    (Tokens.authenticate c).Meets (contract policy own) post true s := by
  unfold Tokens.authenticate
  rw [meets_bind, meets_exchange]
  intro s₁ h₁
  refine ⟨fun _ => .inr (h₁.warm hs), fun result s₂ h₂ => ?_⟩
  have h₂ : Rely policy true s s₂ := Rely.trans h₁ h₂
  cases result with
  | error failure => exact hpost s₂ _ h₂
  | ok response =>
      dsimp only
      split
      · rw [meets_bind, meets_ofExcept]
        cases response.decode "token" TokenReply.ofJson? with
        | error failure => exact hpost s₂ _ h₂
        | ok reply => exact hpost s₂ _ h₂
      · exact hpost s₂ _ h₂

theorem quiet_of_warm (hs : s.inCooldown policy = false) : s.Quiet policy := by
  intro hcool
  rw [hs] at hcool
  cases hcool

theorem mayAmend_of_warm {store : TokenStore} (hs : s.inCooldown policy = false)
    (hquiet : Scene.Quiet policy { s with store }) : MayAmend policy true s store where
  quiet := hquiet
  unlocked hheld := by cases hheld
  cooling hcool := by rw [hs] at hcool; cases hcool

/-- An answer is put to the store in the same cool-down-free time in which it was asked
for, and a rejection follows the emptying of the store. -/
theorem refresh_meets {post : Except Failure String → Bool → Scene → Prop}
    (hs : s.inCooldown policy = false) (hpost : ∀ s' result, post result true s') :
    (Tokens.refresh c).Meets (contract policy own) post true s := by
  unfold Tokens.refresh
  rw [meets_bind, meets_outcome]
  refine authenticate_meets hs fun s₁ result h₁ => ?_
  have hs₁ := h₁.warm hs
  cases result with
  | ok token =>
      dsimp only
      rw [meets_bind, meets_now]
      intro s₂ h₂
      dsimp only
      rw [meets_bind, meets_amend]
      intro s₃ h₃
      have hs₃ : s₃.inCooldown policy = false := Rely.warm h₃ (Rely.warm h₂ hs₁)
      exact ⟨mayAmend_of_warm hs₃ (quiet_of_warm hs₃), hpost _ _⟩
  | error failure =>
      dsimp only
      split
      · rw [meets_bind, meets_amend]
        intro s₂ h₂
        have hs₂ : s₂.inCooldown policy = false := Rely.warm h₂ hs₁
        refine ⟨mayAmend_of_warm hs₂ fun _ => rfl, ?_⟩
        dsimp only
        rw [meets_bind, meets_now]
        intro s₃ h₃
        dsimp only
        rw [meets_bind, meets_amend]
        intro s₄ h₄
        have hs₄ : s₄.inCooldown policy = false := Rely.warm h₄ (Rely.warm h₃ hs₂)
        have hempty : s₄.store.tokens = [] := by
          rcases (Rely.trans h₃ h₄).locked rfl with hstore | hstore <;> rw [hstore] <;> rfl
        exact ⟨mayAmend_of_warm hs₄ fun _ => hempty, hpost _ _⟩
      · exact hpost _ _

theorem acquire_meets {post : Except Failure (Option String) → Bool → Scene → Prop}
    (hpost : ∀ s' result, post result false s') :
    (Tokens.acquire policy c).Meets (contract policy own) post false s := by
  unfold Tokens.acquire
  split
  · exact hpost _ _
  · rw [meets_bind]
    refine look_meets fun s₁ settled h₁ _ => ?_
    cases settled with
    | some settled => exact hpost _ _
    | none =>
        dsimp only
        rw [meets_locked]
        intro s₂ h₂
        refine ⟨trivial, ?_, hpost _ _⟩
        rw [meets_bind]
        refine look_meets fun s₃ settled h₃ hlook => ?_
        cases settled with
        | some settled => exact ⟨rfl, fun _ _ => hpost _ _⟩
        | none =>
            dsimp only
            rw [meets_bind]
            refine refresh_meets (hlook rfl rfl) fun s₄ result => ?_
            cases result with
            | ok token => exact ⟨rfl, fun _ _ => hpost _ _⟩
            | error failure => exact ⟨rfl, fun _ _ => hpost _ _⟩

theorem mayAmend_clear : MayAmend policy false s s.store.clear where
  quiet _ := rfl
  unlocked _ := .inr rfl
  cooling _ := rfl

theorem refreshed_meets {post : Except Failure Request → Bool → Scene → Prop}
    {request : Request}
    (hpost : ∀ s' sent, (∃ token, sent = { request with token }) → post (.ok sent) held s') :
    (Transport.refreshed policy c request).Meets (contract policy own) post held s := by
  unfold Transport.refreshed
  split
  · rw [meets_bind]
    refine current_meets fun s₁ token _ => ?_
    cases token with
    | none => exact hpost _ _ ⟨request.token, rfl⟩
    | some token => exact hpost _ _ ⟨some token, rfl⟩
  · exact hpost _ _ ⟨request.token, rfl⟩

theorem exchange_meets {post : Except Failure Response → Bool → Scene → Prop}
    {request : Request} (hown : request.path = "token" → own request)
    (hpost : ∀ s' result, post result held s') :
    (exchange request).Meets (contract policy own) post held s := by
  rw [meets_exchange]
  exact fun _ _ => ⟨fun htoken => .inl (hown htoken), fun _ _ _ => hpost _ _⟩

theorem send_meets {post : Except Failure Response → Bool → Scene → Prop}
    {retryAllowed : Bool} {request : Request}
    (hown : ∀ token, request.path = "token" → own { request with token })
    (hpost : ∀ s' result, post result false s') :
    (Transport.send policy retryAllowed c request).Meets (contract policy own) post
      false s := by
  unfold Transport.send
  rw [meets_bind]
  refine refreshed_meets fun s₁ sent hsent => ?_
  obtain ⟨first, rfl⟩ := hsent
  dsimp only
  rw [meets_bind]
  refine exchange_meets (hown first) fun s₂ result => ?_
  cases result with
  | error failure => exact hpost _ _
  | ok response =>
      dsimp only
      split
      · exact hpost _ _
      · split
        · exact hpost _ _
        · rw [meets_bind, meets_amend]
          refine fun s₃ _ => ⟨mayAmend_clear, ?_⟩
          dsimp only
          rw [meets_bind]
          refine acquire_meets fun s₄ result => ?_
          cases result with
          | error failure => exact hpost _ _
          | ok token =>
              cases token with
              | none => exact hpost _ _
              | some token =>
                  dsimp only
                  unfold Transport.attempt
                  rw [meets_bind]
                  refine exchange_meets (hown (some token)) fun s₅ result => ?_
                  cases result with
                  | error failure => exact hpost _ _
                  | ok response =>
                      dsimp only
                      split <;> exact hpost _ _

theorem call_keeps (provider : Provider) (call : Call) :
    (call.operation provider).Keeps (contract provider.policy call.own) := by
  have hacquire {own : Request → Prop} (c : Credentials) :
      (Tokens.acquire provider.policy c).Keeps (contract provider.policy own) :=
    ⟨fun _ => acquire_meets fun _ _ => rfl⟩
  cases call with
  | acquire c => exact (hacquire c).bind fun _ => keeps_pure _
  | clear =>
      have hclear {own : Request → Prop} :
          (amend TokenStore.clear).Keeps (contract provider.policy own) :=
        ⟨fun _ _ _ => ⟨mayAmend_clear, rfl⟩⟩
      exact hclear.bind fun _ => keeps_pure _
  | send retryAllowed c request =>
      have hsend : (Transport.send provider.policy retryAllowed c request).Keeps
          (contract provider.policy (Call.send retryAllowed c request).own) :=
        ⟨fun _ => send_meets (fun token _ => ⟨token, rfl⟩) fun _ _ => rfl⟩
      exact hsend.bind fun _ => keeps_pure _
  | errand errand =>
      refine errand.built.keeps (hacquire _) fun retryAllowed request hpath => ?_
      exact ⟨fun _ => send_meets (fun _ h => absurd h hpath) fun _ _ => rfl⟩

end Calls

/-! ## What all calls keep -/

def mayAsk (policy : TokenPolicy) (call : Call) : Bool → Scene → Request → Prop :=
  (contract policy call.own).mayAsk

theorem orderly {provider : Provider} {passes : Instant → Instant → Bool} {s : System}
    (hpasses : ∀ a b, passes a b = true → a.milliseconds ≤ b.milliseconds)
    (h : s.Reachable provider passes) :
    s.Orderly (contract provider.policy fun _ => False) (mayAsk provider.policy)
      (Scene.Quiet provider.policy) :=
  System.orderly_of_reachable (balanced hpasses) (fun _ _ => rfl) (call_keeps provider) h

end Cooldown

end ProgramGuide
