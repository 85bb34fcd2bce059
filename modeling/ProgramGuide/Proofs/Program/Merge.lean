import ProgramGuide.Program.Merge
import ProgramGuide.Proofs.Calendar.Instant

/-!
# Merging

An airing has a record unless its start has no ticks.  A merged schedule depends on the
artwork only through what is found in it, and that is seen in the pictures alone.
-/

namespace ProgramGuide

namespace Airing

variable {airing : Airing} {channel : String}

theorem identity?_eq_some_iff {key : String} : airing.identity? channel = some key ↔
    airing.start.Spanned ∧ airing.identityAt airing.start.units channel = key := by
  simp only [identity?, Option.map_eq_some_iff, Instant.ticks?_eq_some_iff]
  constructor
  · rintro ⟨_, ⟨hspan, rfl⟩, hkey⟩
    exact ⟨hspan, hkey⟩
  · rintro ⟨hspan, hkey⟩
    exact ⟨_, ⟨hspan, rfl⟩, hkey⟩

theorem identity?_eq_none_iff : airing.identity? channel = none ↔ ¬airing.start.Spanned := by
  simp [identity?, Instant.ticks?_eq_none_iff]

end Airing

namespace ProgramRecord

section Airing

variable {channel : String} {airing : Airing} {details : ProgramDetails}
variable {images : Option ProgramImages}

theorem merge?_eq_some_iff {record : ProgramRecord} :
    merge? channel airing details images = some record ↔
      ∃ identity, airing.identity? channel = some identity ∧
        ofIdentity identity channel airing details images = record := by
  simp [merge?]

theorem merge?_eq_none_iff :
    merge? channel airing details images = none ↔ ¬airing.start.Spanned := by
  simp [merge?, Airing.identity?_eq_none_iff]

/-- What holds of the record whatever identity the airing has, if it has one. -/
theorem merge?_of_identity {holds : ProgramRecord → Prop}
    (h : ∀ identity, airing.identity? channel = some identity →
      holds (ofIdentity identity channel airing details images)) :
    (∃ record, merge? channel airing details images = some record ∧ holds record) ∨
      merge? channel airing details images = none ∧ ¬airing.start.Spanned := by
  cases hmerge : merge? channel airing details images with
  | none => exact .inr ⟨rfl, merge?_eq_none_iff.mp hmerge⟩
  | some record =>
      obtain ⟨identity, hidentity, rfl⟩ := merge?_eq_some_iff.mp hmerge
      exact .inl ⟨_, rfl, h identity hidentity⟩

end Airing

def unpictured (r : ProgramRecord) : ProgramRecord :=
  { r with imageUrl := none, thumbImageUrl := none, backdropImageUrl := none }

variable {channel base : String} {details : List ProgramDetails} {days : List ScheduleDay}
variable {artwork artwork' : ArtworkIndex}

theorem mergeAll_congr (h : ∀ root, artwork.get? root = artwork'.get? root) :
    mergeAll channel days details artwork base =
      mergeAll channel days details artwork' base := by
  have hairing : ofAiring channel details artwork base =
      ofAiring channel details artwork' base := by
    funext airing
    unfold ofAiring
    rw [h]
  unfold mergeAll
  rw [hairing]

private theorem map_mapM (f : Airing → Except Failure ProgramRecord)
    (g : ProgramRecord → ProgramRecord) (airings : List Airing) :
    (airings.mapM f).map (List.map g) = airings.mapM fun airing => (f airing).map g := by
  induction airings with
  | nil => rfl
  | cons airing airings ih =>
      rw [List.mapM_cons, List.mapM_cons, ← ih]
      cases f airing with
      | error failure => rfl
      | ok record => cases airings.mapM f <;> rfl

private theorem ofAiring_unpictured (artwork artwork' : ArtworkIndex) (airing : Airing) :
    (ofAiring channel details artwork base airing).map unpictured =
      (ofAiring channel details artwork' base airing).map unpictured := by
  unfold ofAiring
  cases detailsOf? details airing.programId with
  | none => rfl
  | some found =>
      unfold merge?
      cases airing.identity? channel <;> simp [Except.map, ofIdentity, unpictured]

/-- Other artwork changes pictures and nothing else. -/
theorem mergeAll_unpictured (artwork artwork' : ArtworkIndex) :
    (mergeAll channel days details artwork base).map (List.map unpictured) =
      (mergeAll channel days details artwork' base).map (List.map unpictured) := by
  unfold mergeAll
  rw [map_mapM, map_mapM]
  congr 1
  funext airing
  exact ofAiring_unpictured artwork artwork' airing

end ProgramRecord

end ProgramGuide
