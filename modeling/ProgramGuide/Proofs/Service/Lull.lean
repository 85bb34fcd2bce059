import ProgramGuide.Proofs.Service.Cooldown

/-!
# Lulls

In a lull, a run throughout which there is a cool-down, no call gets a token: the store
is empty, and the rejection that started the cool-down remains the last.
-/

namespace ProgramGuide

namespace System

def task? (s : System) (i : Nat) : Option (Task (Except Failure Answer)) :=
  s.threads[i]?.map (·.task)

/-- A thread is about to hand a request over. -/
def Asks (s : System) (i : Nat) (call : Call) (request : Request) : Prop :=
  ∃ next, s.threads[i]? = some ⟨call, .exchange request next, false⟩

/-- A run throughout which there is a cool-down. -/
inductive Lull (provider : Provider) (passes : Instant → Instant → Bool) (s : System) :
    System → Prop
  | start (h : s.inCooldown provider.policy = true) : Lull provider passes s s
  | step {s' s'' : System} (h : Lull provider passes s s')
      (hstep : Step provider passes s' s'') (hcool : s''.inCooldown provider.policy = true) :
      Lull provider passes s s''

end System

namespace Lull

variable {policy : TokenPolicy} {mayAmend : Prop} {mayAsk : Request → Prop}
variable {held : Bool} {s s' : Scene}

structure Rely (policy : TokenPolicy) (s s' : Scene) : Prop where
  cooling : s'.inCooldown policy = true
  tokens : s'.store.tokens = []
  lastRejection : s'.store.lastRejection = s.store.lastRejection

/-- In a lull none waits for the lock. -/
def contract (policy : TokenPolicy) (mayAmend : Prop) (mayAsk : Request → Prop) :
    Contract where
  rely _ := Rely policy
  mayAmend _ _ _ := mayAmend
  mayLock _ := False
  mayAsk _ _ := mayAsk

theorem Rely.trans {a b c : Scene} (hab : Rely policy a b) (hbc : Rely policy b c) :
    Rely policy a c :=
  ⟨hbc.cooling, hbc.tokens, hbc.lastRejection.trans hab.lastRejection⟩

/-! ## What calls do in a lull -/

section Calls

open Operation

variable {c : Credentials}

theorem current_meets {post : Except Failure (Option String) → Bool → Scene → Prop}
    {username : String} (hpost : ∀ s', Rely policy s s' → post (.ok none) held s') :
    (Tokens.current policy username).Meets (contract policy mayAmend mayAsk) post
      held s := by
  unfold Tokens.current
  rw [meets_bind, meets_store]
  intro s₁ h₁
  have hnone : s₁.store.get? username = none := by
    unfold TokenStore.get?
    rw [Rely.tokens h₁]
    rfl
  dsimp only
  rw [hnone]
  exact hpost s₁ h₁

theorem inCooldown_meets {post : Except Failure Bool → Bool → Scene → Prop}
    (hpost : ∀ s', post (.ok true) held s') :
    (Tokens.inCooldown policy).Meets (contract policy mayAmend mayAsk) post held s := by
  unfold Tokens.inCooldown
  rw [meets_bind, meets_store]
  intro s₁ h₁
  have hcool := Rely.cooling h₁
  rw [Cooldown.inCooldown_eq] at hcool
  dsimp only
  cases hlast : s₁.store.lastRejection with
  | none =>
      rw [hlast] at hcool
      cases hcool
  | some since =>
      rw [meets_bind, meets_now]
      intro s₂ h₂
      have hcool := Rely.cooling h₂
      rw [Cooldown.inCooldown_eq, Rely.lastRejection h₂, hlast, Option.any_some] at hcool
      rw [← hcool] at hpost
      exact hpost s₂

theorem look_meets {post : Except Failure (Option (Option String)) → Bool → Scene → Prop}
    (hpost : ∀ s', post (.ok (some none)) held s') :
    (Tokens.look policy c).Meets (contract policy mayAmend mayAsk) post held s := by
  unfold Tokens.look
  rw [meets_bind]
  refine current_meets fun s₁ _ => ?_
  dsimp only
  rw [meets_bind]
  exact inCooldown_meets fun s₂ => hpost s₂

theorem acquire_meets {post : Except Failure (Option String) → Bool → Scene → Prop}
    (hpost : ∀ s', post (.ok none) held s') :
    (Tokens.acquire policy c).Meets (contract policy mayAmend mayAsk) post held s := by
  unfold Tokens.acquire
  split
  · exact hpost s
  · rw [meets_bind]
    exact look_meets fun s₁ => hpost s₁

theorem refreshed_meets {post : Except Failure Request → Bool → Scene → Prop}
    {request : Request} (hpost : ∀ s', post (.ok request) held s') :
    (Transport.refreshed policy c request).Meets (contract policy mayAmend mayAsk) post
      held s := by
  unfold Transport.refreshed
  split
  · rw [meets_bind]
    exact current_meets fun s₁ _ => hpost s₁
  · exact hpost s

theorem send_meets {post : Except Failure Response → Bool → Scene → Prop}
    {retryAllowed : Bool} {request : Request} (hamend : mayAmend) (hask : mayAsk request)
    (hpost : ∀ s' result, post result held s') :
    (Transport.send policy retryAllowed c request).Meets (contract policy mayAmend mayAsk)
      post held s := by
  unfold Transport.send
  rw [meets_bind]
  refine refreshed_meets fun s₁ => ?_
  dsimp only
  rw [meets_bind, meets_exchange]
  refine fun s₂ _ => ⟨hask, fun result s₃ _ => ?_⟩
  cases result with
  | error failure => exact hpost _ _
  | ok response =>
      dsimp only
      split
      · exact hpost _ _
      · split
        · exact hpost _ _
        · rw [meets_bind, meets_amend]
          refine fun s₄ _ => ⟨hamend, ?_⟩
          dsimp only
          rw [meets_bind]
          exact acquire_meets fun s₅ => hpost _ _

end Calls

/-! ## What the others do in a lull -/

private theorem lastRejection_of_move {i : Nat} {t t' : Task α} {waiting waiting' : Bool}
    {scene scene' : Scene} {holder holder' : Option Nat} {own : Request → Prop}
    {post : α → Bool → Scene → Prop} (hquiet : scene.Quiet policy)
    (hcool : scene.inCooldown policy = true)
    (h : t.Meets (Cooldown.contract policy own) post (holder == some i) scene)
    (hmove : t.Move i scene holder waiting scene' holder' t' waiting') :
    scene'.store.lastRejection = scene.store.lastRejection := by
  cases hmove with
  | amend => exact (h scene ⟨hquiet, Int.le_refl _, fun _ => .inl rfl⟩).1.cooling hcool
  | clock => rfl
  | inspect => rfl
  | lock => rfl
  | leave => rfl
  | unlock => rfl
  | ask => rfl
  | hear => rfl
  | cancel => rfl

section Steps

variable {provider : Provider} {passes : Instant → Instant → Bool} {s s' : System}
variable (hpasses : ∀ a b, passes a b = true → a.milliseconds ≤ b.milliseconds)

include hpasses in
theorem rely_refl (h : s.Reachable provider passes)
    (hcool : s.inCooldown provider.policy = true) :
    Rely provider.policy s.scene s.scene :=
  ⟨hcool, (Cooldown.orderly hpasses h).inv hcool, rfl⟩

include hpasses in
private theorem rely_of_step (h : s.Reachable provider passes)
    (hcool : s.inCooldown provider.policy = true) (hstep : s.Step provider passes s')
    (hcool' : s'.inCooldown provider.policy = true) :
    Rely provider.policy s.scene s'.scene where
  cooling := hcool'
  tokens := (Cooldown.orderly hpasses (h.step hstep)).inv hcool'
  lastRejection := by
    have horderly := Cooldown.orderly hpasses h
    cases hstep with
    | elapse => rfl
    | begin => rfl
    | move hi hmove =>
        exact lastRejection_of_move horderly.inv hcool (horderly.threads _ _ hi) hmove

theorem reachable_of_lull (h : s.Reachable provider passes)
    (hlull : s.Lull provider passes s') : s'.Reachable provider passes := by
  induction hlull with
  | start => exact h
  | step _ hstep _ ih => exact ih.step hstep

theorem inCooldown_of_lull (hlull : s.Lull provider passes s') :
    s'.inCooldown provider.policy = true := by
  cases hlull with
  | start h => exact h
  | step _ _ hcool => exact hcool

include hpasses in
/-- In a lull a thread keeps to a part of its task, or it has come to its end. -/
theorem meets_of_lull {post : α → Prop} {i : Nat} {t : Task α}
    {k : α → Task (Except Failure Answer)} (h : s.Reachable provider passes)
    (hlull : s.Lull provider passes s') (hi : s.task? i = some (t.bind k))
    (hmeets : t.Meets (contract provider.policy mayAmend mayAsk) (fun a _ _ => post a) false
      s.scene) :
    (∃ t' : Task α, s'.task? i = some (t'.bind k) ∧ (∀ a, t' ≠ .done a) ∧
      t'.Meets (contract provider.policy mayAmend mayAsk) (fun a _ _ => post a) false
        s'.scene) ∨
    ∃ s₁ a, s.Lull provider passes s₁ ∧ s₁.Lull provider passes s' ∧
      s₁.task? i = some (k a) ∧ post a := by
  -- Once the part has come to its end, it stays so.
  induction hlull with
  | start hcool =>
      by_cases ht : ∃ a, t = .done a
      · obtain ⟨a, rfl⟩ := ht
        exact .inr ⟨s, a, .start hcool, .start hcool, hi, hmeets⟩
      · exact .inl ⟨t, hi, fun a ha => ht ⟨a, ha⟩, hmeets⟩
  | @step s₁ s₂ hlull hstep hcool ih =>
      obtain ⟨t₁, hi₁, ht₁, hmeets₁⟩ | ⟨s₀, a, h₀, h₁, hi₀, ha⟩ := ih
      · have hreach := reachable_of_lull h hlull
        have hcool₁ := inCooldown_of_lull hlull
        have hrely := rely_of_step hpasses hreach hcool₁ hstep hcool
        obtain ⟨⟨call, task, waiting⟩, hthread, htask⟩ := Option.map_eq_some_iff.mp hi₁
        cases htask
        obtain ⟨t₂, waiting₂, hi₂, hmeets₂⟩ :=
          System.meets_part_of_step (fun _ h => h) (rely_refl hpasses hreach hcool₁)
            Rely.trans ht₁ hthread hmeets₁ hstep hrely
        have htask₂ : s₂.task? i = some (t₂.bind k) := by
          unfold System.task?
          rw [hi₂]
          rfl
        by_cases ht₂ : ∃ a, t₂ = .done a
        · obtain ⟨a, rfl⟩ := ht₂
          exact .inr ⟨s₂, a, hlull.step hstep hcool, .start hcool, htask₂, hmeets₂⟩
        · exact .inl ⟨t₂, htask₂, fun a ha => ht₂ ⟨a, ha⟩, hmeets₂⟩
      · exact .inr ⟨s₀, a, h₀, h₁.step hstep hcool, hi₀, ha⟩

end Steps

end Lull

/-! ## Cool-downs of a system -/

namespace System

section

variable {provider : Provider} {passes : Instant → Instant → Bool} {s s' : System}
variable (hpasses : ∀ a b, passes a b = true → a.milliseconds ≤ b.milliseconds)
variable (h : s.Reachable provider passes)

include hpasses h

theorem own_of_asks (hcool : s.inCooldown provider.policy = true) {i : Nat}
    {call : Call} {request : Request} (hasks : s.Asks i call request)
    (hpath : request.path = "token") : call.own request := by
  obtain ⟨next, hi⟩ := hasks
  have horderly := Cooldown.orderly hpasses h
  have hrely : Cooldown.Rely provider.policy (s.holder == some i) s.scene s.scene :=
    ⟨horderly.inv, Int.le_refl _, fun _ => .inl rfl⟩
  obtain ⟨hask, -⟩ := horderly.threads i _ hi s.scene hrely
  rcases hask hpath with hown | hwarm
  · exact hown
  · exact absurd (hcool.symm.trans hwarm) (by decide)

private theorem acquire_of_lull {i : Nat} {c : Credentials}
    {k : Except Failure (Option String) → Task (Except Failure Answer)}
    (hlull : s.Lull provider passes s')
    (hi : s.task? i = some ((Tokens.acquire provider.policy c).run.bind k)) :
    (∃ t, s'.task? i = some (Task.bind t k) ∧
      ((∃ next, t = .clock next) ∨ ∃ next, t = .inspect next)) ∨
    ∃ s₁, s.Lull provider passes s₁ ∧ s₁.Lull provider passes s' ∧
      s₁.task? i = some (k (.ok none)) := by
  have hmeets : (Tokens.acquire provider.policy c).Meets
      (Lull.contract provider.policy False fun _ => False)
      (fun result _ _ => result = .ok none) false s.scene :=
    Lull.acquire_meets fun _ => rfl
  obtain ⟨t, hi', ht, hmeets'⟩ | ⟨s₁, result, h₁, h₂, hend, rfl⟩ :=
    Lull.meets_of_lull hpasses h hlull hi hmeets
  · refine .inl ⟨t, hi', ?_⟩
    have hrely := Lull.rely_refl hpasses (Lull.reachable_of_lull h hlull)
      (Lull.inCooldown_of_lull hlull)
    cases t with
    | done result => exact absurd rfl (ht result)
    | clock next => exact .inl ⟨next, rfl⟩
    | inspect next => exact .inr ⟨next, rfl⟩
    | amend => exact (hmeets' _ hrely).1.elim
    | lock => exact (hmeets'.2 _ hrely).1.elim
    | unlock => cases hmeets'.1
    | exchange => exact (hmeets' _ hrely).1.elim
  · exact .inr ⟨s₁, h₁, h₂, hend⟩

private theorem send_of_lull {i : Nat} {retryAllowed : Bool} {c : Credentials}
    {request : Request} {k : Except Failure Response → Task (Except Failure Answer)}
    (hlull : s.Lull provider passes s')
    (hi : s.task? i =
      some ((Transport.send provider.policy retryAllowed c request).run.bind k)) :
    (∃ t, s'.task? i = some (Task.bind t k) ∧ (∀ result, t ≠ .done result) ∧
      ∀ sent next, t = .exchange sent next → sent = request) ∨
    ∃ s₁ result, s.Lull provider passes s₁ ∧ s₁.Lull provider passes s' ∧
      s₁.task? i = some (k result) := by
  have hmeets : (Transport.send provider.policy retryAllowed c request).Meets
      (Lull.contract provider.policy True fun sent => sent = request)
      (fun _ _ _ => True) false s.scene :=
    Lull.send_meets trivial rfl fun _ _ => trivial
  obtain ⟨t, hi', ht, hmeets'⟩ | ⟨s₁, result, h₁, h₂, hend, -⟩ :=
    Lull.meets_of_lull hpasses h hlull hi hmeets
  · refine .inl ⟨t, hi', ht, fun sent next hnext => ?_⟩
    subst hnext
    have hrely := Lull.rely_refl hpasses (Lull.reachable_of_lull h hlull)
      (Lull.inCooldown_of_lull hlull)
    exact (hmeets' _ hrely).1
  · exact .inr ⟨s₁, result, h₁, h₂, hend⟩

/-- In a cool-down the store is empty, whatever the calls and the answers, on a clock
whose whole milliseconds never step back.  No token is asked for but by the caller
itself; while it lasts to acquire a token is only to look and to get none, and a request
is sent with no other token than its own. -/
theorem tokenless_of_inCooldown (hcool : s.inCooldown provider.policy = true) :
    s.scene.store.tokens = [] ∧
    (∀ i call request, s.Asks i call request → request.path = "token" → call.own request) ∧
    (∀ s' i c k, s.Lull provider passes s' →
      s.task? i = some ((Tokens.acquire provider.policy c).run.bind k) →
      (∃ t, s'.task? i = some (Task.bind t k) ∧
        ((∃ next, t = .clock next) ∨ ∃ next, t = .inspect next)) ∨
      ∃ s₁, s.Lull provider passes s₁ ∧ s₁.Lull provider passes s' ∧
        s₁.task? i = some (k (.ok none))) ∧
    (∀ s' i retryAllowed c request k, s.Lull provider passes s' →
      s.task? i = some ((Transport.send provider.policy retryAllowed c request).run.bind k) →
      (∃ t, s'.task? i = some (Task.bind t k) ∧ (∀ result, t ≠ .done result) ∧
        ∀ sent next, t = .exchange sent next → sent = request) ∨
      ∃ s₁ result, s.Lull provider passes s₁ ∧ s₁.Lull provider passes s' ∧
        s₁.task? i = some (k result)) := by
  refine ⟨(Cooldown.orderly hpasses h).inv hcool, ?_, ?_, ?_⟩
  · exact fun _ _ _ => own_of_asks hpasses h hcool
  · exact fun _ _ _ _ => acquire_of_lull hpasses h
  · exact fun _ _ _ _ _ _ => send_of_lull hpasses h

end

/-- Outside leap seconds a clock that does not step back does not do so in whole
milliseconds. -/
theorem milliseconds_le_of_not_before {a b : Instant} (ha : a.isLeap = false)
    (h : b.before a = false) : a.milliseconds ≤ b.milliseconds := by
  have hnanos : a.nanos < 1000000000 := Nat.lt_of_not_le (of_decide_eq_false ha)
  simp only [Instant.before, Bool.or_eq_false_iff, Bool.and_eq_false_iff,
    decide_eq_false_iff_not, beq_eq_false_iff_ne] at h
  unfold Instant.milliseconds
  omega

def viewer : Credentials := ⟨"viewer", "pw"⟩

def patientProvider : Provider := ⟨⟨72000000000000, 60500000000⟩, .fixed 0, ""⟩

def rejection : List Cue :=
  .begin (.acquire viewer) :: List.replicate 6 (.go 0) ++
    .hear 0 (.ok ⟨400, ""⟩) :: List.replicate 4 (.go 0)

theorem tokenless_of_rejection :
    ∃ s : System, s.Reachable patientProvider (fun a b => !a.isLeap && !b.before a) ∧
      s.inCooldown patientProvider.policy = true ∧ s.scene.store.tokens = [] := by
  have hrun : ((rejection.foldlM
      (perform patientProvider fun a b => !a.isLeap && !b.before a)
      (start ⟨0, 0⟩)).any fun s => s.inCooldown patientProvider.policy) = true := by
    decide +kernel
  obtain ⟨s, hs, hcool⟩ := (Option.any_eq_true ..).mp hrun
  have hreach := reachable_of_perform (.start ⟨0, 0⟩) hs
  refine ⟨s, hreach, hcool, (tokenless_of_inCooldown ?_ hreach hcool).1⟩
  intro a b hpasses
  simp only [Bool.and_eq_true, Bool.not_eq_true'] at hpasses
  exact milliseconds_le_of_not_before hpasses.1 hpasses.2

/-- A cool-down seems over in a leap second, in which the account gets a token after all,
and goes on in the next second. -/
def leapSecond : List Cue :=
  rejection ++
    [.elapse ⟨1483228799, 1900000000⟩, .begin (.acquire viewer)] ++
      List.replicate 8 (.go 1) ++
    .hear 1 (.ok ⟨200, "\x7b\"message\":\"OK\",\"token\":\"tok\"\x7d"⟩) ::
      List.replicate 3 (.go 1) ++
    [.elapse ⟨1483228800, 0⟩]

/-- On a clock that never steps back there may be tokens in a cool-down. -/
theorem not_tokenless_of_leapSecond :
    ¬∀ (provider : Provider) (s : System),
      s.Reachable provider (fun a b => !b.before a) →
      s.inCooldown provider.policy = true → s.scene.store.tokens = [] := by
  intro hempty
  have hrun : ((leapSecond.foldlM (perform patientProvider fun a b => !b.before a)
      (start ⟨1483228740, 0⟩)).any fun s =>
        s.inCooldown patientProvider.policy && !s.scene.store.tokens.isEmpty) = true := by
    decide +kernel
  obtain ⟨s, hs, hboth⟩ := (Option.any_eq_true ..).mp hrun
  simp only [Bool.and_eq_true, Bool.not_eq_true'] at hboth
  obtain ⟨hcool, htokens⟩ := hboth
  rw [hempty patientProvider s (reachable_of_perform (.start _) hs) hcool] at htokens
  cases htokens

end System

end ProgramGuide
