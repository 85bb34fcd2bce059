import ProgramGuide.Proofs.Service.Issued
import ProgramGuide.Proofs.Service.Listing

/-!
# Sequences of errands

Errands are done one after the other on one store.  If none of them takes as long as a
token lasts, every request in all of them carries the right token.
-/

namespace ProgramGuide

open Operation

namespace Issued

/-- Errands with what happens on each, done in sequence on one store. -/
def attend (provider : Provider) : List Errand → TokenStore → Outside →
    List (Errand × Played (Except Failure Answer))
  | [], _, _ => []
  | errand :: errands, store, o =>
      let played := (errand.operation provider).play store o
      (errand, played) :: attend provider errands played.store (o.after played.events.length)

def log (attended : List (Errand × Played (Except Failure Answer))) : List Entry :=
  attended.flatMap fun (errand, played) => entries errand.username played.events

variable {provider : Provider}

theorem faithful_attend (errands : List Errand) {store : TokenStore} {o : Outside}
    {earlier : List Entry} (hstore : Consistent store earlier)
    (hbrief : ∀ done ∈ attend provider errands store o,
      Brief provider.policy (readings done.2.events)) :
    Faithful earlier (log (attend provider errands store o)) := by
  induction errands generalizing store o earlier with
  | nil => trivial
  | cons errand errands ih =>
      have hfirst : Brief provider.policy
          ([] ++ readings ((errand.operation provider).play store o).events) :=
        hbrief _ List.mem_cons_self
      have hkept := (proper_of_built errand.built).kept hstore trivial hfirst
        (play_runs (errand.operation provider) store o)
      refine faithful_append.mpr ⟨hkept.faithful, ih hkept.consistent ?_⟩
      intro done hdone
      exact hbrief done (List.mem_cons_of_mem _ hdone)

/-- In any sequence of errands, none as long as a token lasts, every request but those
for a token carries the token last issued to its user. -/
theorem right_of_attend {errands : List Errand} {o : Outside} {before after : List Entry}
    {entry : Entry}
    (hbrief : ∀ done ∈ attend provider errands .empty o,
      Brief provider.policy (readings done.2.events))
    (hlog : log (attend provider errands .empty o) = before ++ entry :: after) :
    if entry.request.path = "token" then entry.request.token = none
    else
      ∃ token, entry.request.token = some token ∧ token ≠ "" ∧
        last? entry.username before = some token := by
  have hfaithful := faithful_attend errands consistent_empty hbrief
  rw [hlog] at hfaithful
  exact right_of_faithful hfaithful

open Listing

/-- The first token is turned down, the second one is not. -/
def renewal : List (Nat × String) :=
  [(1, "\x7b\"message\":\"OK\",\"token\":\"first\"\x7d"),
   (6, "\x7b\"message\":\"OK\",\"token\":\"second\"\x7d"),
   (8, "[\x7b\"programs\":[\x7b\"programID\":\"EP01\"," ++
     "\"airDateTime\":\"2024-01-05T20:15:00Z\"\x7d]\x7d]"),
   (10, "[]")]

def renewed : List Entry :=
  log (attend plainProvider
    [.programs viewerAccount "20454" ⟨1704412800, 0⟩ ⟨1704416400, 0⟩,
      .lineups viewerAccount "USA" "10001"] .empty (answering renewal))

theorem right_of_attend_renewal :
    let programs : Entry :=
      ⟨"viewer", Fetch.idsRequest "programs" ["EP01"] "second", .ok ⟨200, "[]"⟩⟩
    renewed = renewed.take 4 ++ programs :: renewed.drop 5 ∧
      ∃ token, programs.request.token = some token ∧ token ≠ "" ∧
        last? "viewer" (renewed.take 4) = some token := by
  intro programs
  have hlog : renewed = renewed.take 4 ++ programs :: renewed.drop 5 := by decide +kernel
  have hright := right_of_attend (by decide +kernel) hlog
  rw [if_neg (by decide +kernel)] at hright
  exact ⟨hlog, hright⟩

end Issued

end ProgramGuide
