import ProgramGuide.Proofs.Artwork.Element
import ProgramGuide.Proofs.Json.Writer
import ProgramGuide.Proofs.Service.Isolation

/-!
# Tolerance of artwork

Two answers with the same artwork make for the same listing, whatever else is in them that
is no artwork.  The two listings are followed side by side: they do the same at every step
but for the answers that they are given at one path.
-/

namespace ProgramGuide

namespace Response

/-- Successful responses whose bodies are texts of sound payloads that come from each other
by harmless changes. -/
structure Tantamount (r r' : Response) : Prop where
  success : r.isSuccess = true
  success' : r'.isSuccess = true
  payloads : ∃ j j', Json.read? r.body = some j ∧ Json.read? r'.body = some j' ∧
    j.Sound Json.nestingLimit ∧ j'.Sound Json.nestingLimit ∧
    Relation.EqvGen ShowArtwork.Swapped j j'

def shows (r : Response) : Except Failure (List ShowArtwork) :=
  r.decode "metadata/programs" ShowArtwork.listOfJson?

theorem Tantamount.index {r r' : Response} (h : r.Tantamount r') :
    r.shows.map ArtworkIndex.ofShows = r'.shows.map ArtworkIndex.ofShows := by
  obtain ⟨j, j', hread, hread', hsound, hsound', hswapped⟩ := h.payloads
  have hindex := ShowArtwork.index_of_swapped hswapped hsound hsound'
  unfold shows decode
  rw [hread, hread', Option.bind_some, Option.bind_some]
  generalize ShowArtwork.listOfJson? j = read, ShowArtwork.listOfJson? j' = read' at hindex
  cases read with
  | none =>
      cases read' with
      | none => rfl
      | some => cases hindex
  | some shows =>
      cases read' with
      | none => cases hindex
      | some shows' => exact congrArg Except.ok (Option.some.inj hindex)

end Response

/-! ## Side by side -/

/-- Tasks on one store that take the same steps until, at the path of the artwork, one is
given `r` and the other `r'`, and from then on too; their results are as `q` says. -/
inductive Task.Abreast (r r' : Response) (q : α → β → Prop) :
    TokenStore → Task α → Task β → Prop
  | done {store a b} (h : q a b) : Abreast r r' q store (.done a) (.done b)
  | clock {store next next'} (h : ∀ now, Abreast r r' q store (next now) (next' now)) :
      Abreast r r' q store (.clock next) (.clock next')
  | inspect {store next next'} (h : Abreast r r' q store (next store) (next' store)) :
      Abreast r r' q store (.inspect next) (.inspect next')
  | amend {store change next next'} (h : Abreast r r' q (change store) next next') :
      Abreast r r' q store (.amend change next) (.amend change next')
  | lock {store next next'} (h : ∀ held, Abreast r r' q store (next held) (next' held)) :
      Abreast r r' q store (.lock next) (.lock next')
  | unlock {store next next'} (h : Abreast r r' q store next next') :
      Abreast r r' q store (.unlock next) (.unlock next')
  | exchange {store request next next'}
      (h : ∀ result, Abreast r r' q store (next result) (next' result))
      (hpath : request.path = "metadata/programs" →
        Abreast r r' q store (next (.ok r)) (next' (.ok r'))) :
      Abreast r r' q store (.exchange request next) (.exchange request next')

/-- An outside that, as far as some events go, is like another but for answers to requests
for artwork: some that are `r` there are `r'` here. -/
def Outside.Swaps (r r' : Response) (events : List Event) (o o' : Outside) : Prop :=
  ∀ n event, events[n]? = some event →
    o' n = o n ∨ (event.path? = some "metadata/programs" ∧ (o n).answer = .ok r ∧
      o' n = { o n with answer := .ok r' })

section Swaps

variable {r r' : Response} {event : Event} {events : List Event} {o o' : Outside}

theorem Outside.Swaps.tail (h : Swaps r r' (event :: events) o o') :
    Swaps r r' events (o.after 1) (o'.after 1) :=
  fun n later hlater => h (n + 1) later hlater

theorem Outside.Swaps.head (h : Swaps r r' (event :: events) o o')
    (hpath : event.path? = none) : o' 0 = o 0 := by
  obtain hsame | ⟨hartwork, -⟩ := h 0 event rfl
  · exact hsame
  · rw [hpath] at hartwork
    cases hartwork

end Swaps

namespace Task

variable {r r' : Response} {q : α → β → Prop} {s : γ → δ → Prop} {store : TokenStore}

theorem Abreast.bind {t : Task α} {t' : Task β} {f : α → Task γ} {f' : β → Task δ}
    (h : Abreast r r' q store t t')
    (hf : ∀ a b store, q a b → Abreast r r' s store (f a) (f' b)) :
    Abreast r r' s store (t.bind f) (t'.bind f') := by
  induction h with
  | done h => exact hf _ _ _ h
  | clock _ ih => exact .clock ih
  | inspect _ ih => exact .inspect ih
  | amend _ ih => exact .amend ih
  | lock _ ih => exact .lock ih
  | unlock _ ih => exact .unlock ih
  | exchange _ _ ih ihpath => exact .exchange ih ihpath

/-- A task that asks for no artwork keeps abreast of itself. -/
theorem abreast_of_absent {t : Task α} {q : α → α → Prop} (hq : ∀ a, q a a)
    (h : ∀ {events a store'}, t.Runs store events a store' →
      Absent "metadata/programs" events) : Abreast r r' q store t t := by
  induction t generalizing store with
  | done a => exact .done (hq a)
  | clock next ih =>
      refine .clock fun now => ih now fun hrun => ?_
      exact (Stage.absent_cons.mp (h (.clock now hrun))).2
  | inspect next ih => exact .inspect (ih store fun hrun => h (.inspect hrun))
  | amend change next ih => exact .amend (ih fun hrun => h (.amend hrun))
  | lock next ih =>
      refine .lock fun held => ih held fun hrun => ?_
      exact (Stage.absent_cons.mp (h (.lock held hrun))).2
  | unlock next ih => exact .unlock (ih fun hrun => h (.unlock hrun))
  | exchange request next ih =>
      have hrun (result : Except Failure Response) {events a store'}
          (hnext : (next result).Runs store events a store') :
          Absent "metadata/programs" (.exchange request true result :: events) :=
        h (.exchange true result nofun hnext)
      refine .exchange (fun result => ih result fun hnext => ?_) fun hpath => ?_
      · exact (Stage.absent_cons.mp (hrun result hnext)).2
      · -- Any run of the task would make the request.
        have hplay := hrun (.error .cancelled) ((next (.error .cancelled)).play_runs store
          fun _ => ⟨⟨0, 0⟩, true, .error .cancelled⟩)
        exact absurd (congrArg some hpath) (Stage.absent_cons.mp hplay).1

theorem Abreast.play {t : Task α} {t' : Task β} (h : Abreast r r' q store t t')
    {o o' : Outside} (ho : Outside.Swaps r r' (t.play store o).events o o') :
    q (t.play store o).result (t'.play store o').result := by
  induction h generalizing o o' with
  | done h => exact h
  | clock _ ih =>
      have hfirst := ho.head rfl
      simp only [Task.play, hfirst]
      exact ih _ ho.tail
  | inspect _ ih => exact ih ho
  | amend _ ih => exact ih ho
  | lock _ ih =>
      have hfirst := ho.head rfl
      simp only [Task.play, hfirst]
      exact ih _ ho.tail
  | unlock _ ih => exact ih ho
  | @exchange store request next next' _ _ ih ihpath =>
      simp only [Task.play] at ho ⊢
      split at ho
      next hstop =>
        -- Neither of the two sends the request.
        have hstop' : (o' 0).cancelled = true := by
          obtain hsame | ⟨-, -, hswapped⟩ := ho 0 _ rfl
          · rw [hsame, hstop]
          · rw [hswapped, hstop]
        rw [if_pos hstop, if_pos hstop']
        exact ih _ ho.tail
      next hgo =>
        rw [if_neg hgo]
        obtain hsame | ⟨hpath, hanswer, hswapped⟩ := ho 0 _ rfl
        · rw [hsame, if_neg hgo]
          exact ih _ ho.tail
        · rw [hanswer] at ho ⊢
          rw [hswapped, if_neg hgo]
          exact ihpath (Option.some.inj hpath) ho.tail

end Task

/-! ## Operations side by side -/

namespace Operation

/-- The same failure, or values as `q` says. -/
inductive Outcome (q : α → β → Prop) : Except Failure α → Except Failure β → Prop
  | ok {a b} (h : q a b) : Outcome q (.ok a) (.ok b)
  | error (failure) : Outcome q (.error failure) (.error failure)

theorem Outcome.refl {q : α → α → Prop} (hq : ∀ a, q a a) (result : Except Failure α) :
    Outcome q result result := by
  cases result with
  | ok a => exact .ok (hq a)
  | error failure => exact .error failure

theorem Outcome.eq {result result' : Except Failure α} (h : Outcome Eq result result') :
    result = result' := by
  cases h with
  | ok h => rw [h]
  | error => rfl

def Abreast (r r' : Response) (q : α → β → Prop) (op : Operation α) (op' : Operation β) :
    Prop :=
  ∀ store, Task.Abreast r r' (Outcome q) store op.run op'.run

variable {r r' : Response} {q : α → β → Prop} {s : γ → δ → Prop}

theorem Abreast.bind {op : Operation α} {op' : Operation β} {f : α → Operation γ}
    {f' : β → Operation δ} (h : op.Abreast r r' q op')
    (hf : ∀ a b, q a b → (f a).Abreast r r' s (f' b)) :
    (op >>= f).Abreast r r' s (op' >>= f') := by
  intro store
  refine (h store).bind fun result result' store hresult => ?_
  cases hresult with
  | ok hq => exact hf _ _ hq store
  | error failure => exact .done (.error failure)

theorem Abreast.outcome {op op' : Operation α} (h : op.Abreast r r' Eq op') :
    op.outcome.Abreast r r' Eq op'.outcome :=
  fun store => (h store).bind fun _ _ _ hresult => .done (.ok hresult.eq)

/-- To go on alike is enough where no artwork is asked for. -/
theorem abreast_of_avoids {op : Operation α} {q : α → α → Prop} (hq : ∀ a, q a a)
    (h : op.Avoids "metadata/programs") : op.Abreast r r' q op :=
  fun _ => Task.abreast_of_absent (Outcome.refl hq) h.absent

theorem Abreast.bind_same {op : Operation α} {f : α → Operation γ} {f' : α → Operation δ}
    (h : op.Abreast r r' Eq op) (hf : ∀ a, (f a).Abreast r r' s (f' a)) :
    (op >>= f).Abreast r r' s (op >>= f') :=
  h.bind fun a _ hsame => hsame ▸ hf a

section Requests

variable {policy : TokenPolicy} {c : Credentials}

/-- The same response twice, or the two that may differ. -/
inductive Answered (r r' : Response) : Response → Response → Prop
  | same (response) : Answered r r' response response
  | swapped : Answered r r' r r'

theorem abreast_exchange (request : Request) :
    (exchange request).Abreast r r' (Answered r r') (exchange request) := by
  intro store
  refine .exchange (fun result => .done (Outcome.refl .same result)) ?_
  exact fun _ => .done (.ok .swapped)

theorem avoids_refreshed {path : String} {request : Request} :
    (Transport.refreshed policy c request).Avoids path where
  absent h := by
    obtain ⟨_, -, hrenewed, -⟩ := Transport.refreshed_path h
    exact (Stage.reads_of_renewed hrenewed).absent path

theorem abreast_attempt (h : r.Tantamount r') (request : Request) :
    (Transport.attempt request).Abreast r r' (Answered r r') (Transport.attempt request) := by
  refine (abreast_exchange request).bind fun response response' hanswered => ?_
  cases hanswered with
  | same =>
      refine abreast_of_avoids .same ?_
      split
      · exact avoids_pure _
      · exact avoids_throw _
  | swapped =>
      rw [if_pos h.success, if_pos h.success']
      exact fun store => .done (.ok .swapped)

theorem abreast_send (h : r.Tantamount r') (retryAllowed : Bool) (request : Request) :
    (Transport.send policy retryAllowed c request).Abreast r r' (Answered r r')
      (Transport.send policy retryAllowed c request) := by
  refine (abreast_of_avoids (fun _ => rfl) avoids_refreshed).bind_same fun renewed => ?_
  refine (abreast_exchange renewed).bind fun response response' hanswered => ?_
  cases hanswered with
  | same =>
      split
      · exact abreast_of_avoids .same (avoids_pure _)
      · split
        · exact abreast_of_avoids .same (avoids_throw _)
        · refine Abreast.bind_same (fun _ => .amend (.done (.ok rfl))) fun _ => ?_
          refine (abreast_of_avoids (fun _ => rfl) (avoids_acquire (by simp))).bind_same
            fun token => ?_
          cases token with
          | none => exact abreast_of_avoids .same (avoids_throw _)
          | some token => exact abreast_attempt h _
  | swapped =>
      rw [if_pos h.success, if_pos h.success']
      exact fun store => .done (.ok .swapped)

theorem ofExcept_bind_pure (result : Except Failure α) (f : α → β) :
    (do let a ← ofExcept result; return f a : Operation β) = ofExcept (result.map f) := by
  cases result <;> rfl

theorem abreast_artworkOf (h : r.Tantamount r') (roots : List String) (token : String) :
    (Fetch.artworkOf policy c roots token).Abreast r r' Eq
      (Fetch.artworkOf policy c roots token) := by
  refine (abreast_send h true _).bind fun response response' hanswered => ?_
  have hindex : response.shows.map ArtworkIndex.ofShows =
      response'.shows.map ArtworkIndex.ofShows := by
    cases hanswered with
    | same => rfl
    | swapped => exact h.index
  change Abreast r r' Eq
    (do let shows ← ofExcept response.shows; return ArtworkIndex.ofShows shows)
    (do let shows ← ofExcept response'.shows; return ArtworkIndex.ofShows shows)
  rw [ofExcept_bind_pure, ofExcept_bind_pure, hindex]
  exact abreast_of_avoids (fun _ => rfl) (avoids_ofExcept _)

theorem abreast_artwork (h : r.Tantamount r') (ids : List String) (token : String) :
    (Fetch.artwork policy c ids token).Abreast r r' Eq (Fetch.artwork policy c ids token) := by
  unfold Fetch.artwork
  dsimp only
  split
  · exact abreast_of_avoids (fun _ => rfl) (avoids_pure _)
  · refine (abreast_artworkOf h _ token).outcome.bind_same fun result => ?_
    refine abreast_of_avoids (fun _ => rfl) ?_
    split
    · exact avoids_pure _
    · exact avoids_throw _
    · exact avoids_pure _

end Requests

open Listing in
theorem abreast_programs (h : r.Tantamount r') {provider : Provider} {account : Account}
    {channel : String} {first last : Instant} :
    (provider.programs account channel first last).Abreast r r' Eq
      (provider.programs account channel first last) := by
  rw [programs_eq_bind]
  refine (abreast_of_avoids (fun _ => rfl) avoids_scheduled).bind_same fun batch => ?_
  unfold illustrated
  cases batch with
  | none => exact abreast_of_avoids (fun _ => rfl) (avoids_pure _)
  | some scheduled =>
      dsimp only
      split
      · exact abreast_of_avoids (fun _ => rfl) (avoids_pure _)
      · refine (abreast_artwork h _ _).bind_same fun artwork => ?_
        exact abreast_of_avoids (fun _ => rfl) (avoids_ofExcept _)

end Operation

/-- What is no candidate does no harm: of two tantamount answers to a request for artwork
both can be read or neither, to the same effect, and a listing that meets the one is the
same as with the other. -/
theorem Response.listing_of_tantamount {r r' : Response} (h : r.Tantamount r') :
    r.shows.map ArtworkIndex.ofShows = r'.shows.map ArtworkIndex.ofShows ∧
      ∀ (provider : Provider) (account : Account) (channel : String) (first last : Instant)
        (store : TokenStore) (o o' : Outside),
        Outside.Swaps r r' ((provider.programs account channel first last).play store o).events
          o o' →
        ((provider.programs account channel first last).play store o).result =
          ((provider.programs account channel first last).play store o').result := by
  refine ⟨h.index, fun provider account channel first last store o o' ho => ?_⟩
  exact ((Operation.abreast_programs h store).play ho).eq

namespace Spoiled

open Json ShowArtwork

def element (id : String) (data : Json) : Json :=
  .object [("programID", .string id), ("data", data)]

def picture (uri : String) : Json := .object [("uri", .string uri)]

def whole : Json :=
  .array [element "EP01" (.array [picture "a", picture "b"]), element "EP02" (.array [])]

/-- With something that is no candidate, the candidates split up, and an error for data. -/
def spoiled : Json :=
  .array [element "EP01" (.array [.string "none", picture "a"]),
    element "EP01" (.array [picture "b"]), element "EP02" (.string "error")]

theorem element_element (id : String) (data : Json) :
    Element [.string id] data (element id data) :=
  .object rfl rfl

theorem swapped : Relation.EqvGen Swapped whole spoiled := by
  have hitem : Swapped whole (.array [element "EP01" (.array [.string "none", picture "a",
      picture "b"]), element "EP02" (.array [])]) :=
    .elements [] _ (.item [] _ rfl (element_element ..) (element_element ..))
  have hsplit : Swapped (.array [element "EP01" (.array [.string "none", picture "a",
      picture "b"]), element "EP02" (.array [])]) (.array [element "EP01" (.array
        [.string "none", picture "a"]), element "EP01" (.array [picture "b"]),
        element "EP02" (.array [])]) :=
    .elements [] _ (.split [.string "none", picture "a"] _ (element_element ..)
      (element_element ..) (element_element ..))
  have hdata : Swapped spoiled (.array [element "EP01" (.array
      [.string "none", picture "a"]), element "EP01" (.array [picture "b"]),
      element "EP02" (.array [])]) :=
    .elements [element "EP01" (.array [.string "none", picture "a"]),
        element "EP01" (.array [picture "b"])] []
      (.data (fun _ h => by cases h) (element_element ..) (element_element ..))
  exact .trans _ _ _ (.trans _ _ _ (.rel _ _ hitem) (.rel _ _ hsplit))
    (.symm _ _ (.rel _ _ hdata))

theorem textual_element {data : Json} (id : String) (h : Textual data) :
    Textual (element id data) :=
  .object (by simp [h, Textual.string])

theorem textual_picture (uri : String) : Textual (picture uri) :=
  .object (by simp [Textual.string])

theorem textual_whole : Textual whole :=
  .array (by simp [textual_element, textual_picture, Textual.array])

theorem textual_spoiled : Textual spoiled :=
  .array (by simp [textual_element, textual_picture, Textual.array, Textual.string])

def answer (j : Json) : Response := ⟨200, j.write⟩

theorem tantamount : (answer whole).Tantamount (answer spoiled) where
  success := rfl
  success' := rfl
  payloads := by
    refine ⟨whole, spoiled, read?_write textual_whole, read?_write textual_spoiled, ?_, ?_, swapped⟩
    · exact ⟨by decide +kernel, by decide +kernel⟩
    · exact ⟨by decide +kernel, by decide +kernel⟩

def evening (j : Json) : Outside := Listing.answering ((8, j.write) :: Listing.evening)

theorem evening_of_ne (j j' : Json) {n : Nat} (h : n ≠ 8) : evening j n = evening j' n := by
  simp only [evening, Listing.answering, List.lookup_cons, beq_eq_false_iff_ne.mpr h]

end Spoiled

open Spoiled Listing in
theorem Response.listing_of_tantamount_evening :
    ((plainProvider.programs viewerAccount "20454" ⟨1704412800, 0⟩ ⟨1704416400, 0⟩).play
        .empty (Spoiled.evening whole)).result =
      ((plainProvider.programs viewerAccount "20454" ⟨1704412800, 0⟩ ⟨1704416400, 0⟩).play
        .empty (Spoiled.evening spoiled)).result := by
  refine (listing_of_tantamount tantamount).2 _ _ _ _ _ _ _ _ fun n event hevent => ?_
  by_cases hn : n = 8
  · subst hn
    have hpath : (((plainProvider.programs viewerAccount "20454" ⟨1704412800, 0⟩
        ⟨1704416400, 0⟩).play .empty (Spoiled.evening whole)).events[8]?.bind Event.path?) =
          some "metadata/programs" := by
      decide +kernel
    rw [hevent] at hpath
    exact .inr ⟨hpath, rfl, rfl⟩
  · exact .inl (evening_of_ne spoiled whole hn)

open Spoiled Listing in
example : ((plainProvider.programs viewerAccount "20454" ⟨1704412800, 0⟩
    ⟨1704416400, 0⟩).play .empty (Spoiled.evening spoiled)).result.map
      (List.map ProgramRecord.imageUrl) = .ok [some "/image/a"] := by
  decide +kernel

end ProgramGuide
