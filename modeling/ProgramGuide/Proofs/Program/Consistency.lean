import ProgramGuide.Proofs.Program.Show
import ProgramGuide.Proofs.Text.Blank

/-!
# Consistent records

The fields of a record agree with each other and with what was merged into it, whatever
the details leave out, leave blank or give twice.
-/

namespace ProgramGuide

structure Rating.Proper (rating : String) : Prop where
  not_blank : Text.blank rating = false
  trimmed : Text.trim rating = rating
  not_placeholder : ∀ placeholder ∈ placeholders,
    Text.sameIgnoringCase placeholder rating = false

theorem Rating.proper_of_normalize? {code rating : String}
    (h : normalize? code = some rating) : Proper rating := by
  unfold normalize? at h
  rw [Option.ite_none_left_eq_some, Bool.or_eq_true, not_or, Bool.not_eq_true,
    Bool.not_eq_true] at h
  obtain ⟨⟨hempty, hlisted⟩, hrating⟩ := h
  cases hrating
  refine ⟨?_, Text.trim_ofList_trimChars, ?_⟩
  · apply Text.blank_ofList_trimChars
    intro hnil
    simp [tidy, hnil] at hempty
  · simpa [Text.listsIgnoringCase] using hlisted

namespace ProgramDetails

variable {details : ProgramDetails}

/-- The first of the texts is given and not blank. -/
def OpensWith (texts : List (Option String)) (text : String) : Prop :=
  texts.head? = some (some text) ∧ Text.blank text = false

theorem firstText_eq_some_iff {texts : List (Option String)} {text : String} :
    firstText texts = some text ↔ OpensWith texts text := by
  unfold firstText OpensWith
  match texts with
  | [] => simp
  | none :: texts => simp
  | some first :: texts =>
      simp only [List.head?_cons, Option.getD_some, Option.bind_some,
        Text.nonBlank?_eq_some_iff, Option.some.injEq]

theorem firstText_eq_none_iff {texts : List (Option String)} :
    firstText texts = none ↔ ∀ text, ¬OpensWith texts text := by
  rw [Option.eq_none_iff_forall_ne_some]
  apply forall_congr'
  intro text
  rw [ne_eq, firstText_eq_some_iff]

theorem overview_eq_some_iff {text : String} : details.overview = some text ↔
    ∃ descriptions, details.descriptions = some descriptions ∧
      (OpensWith descriptions.long text ∨
        (∀ other, ¬OpensWith descriptions.long other) ∧
          OpensWith descriptions.short text) := by
  unfold overview
  cases details.descriptions with
  | none => simp
  | some descriptions =>
      simp only [Option.some.injEq, exists_eq_left', ← firstText_eq_none_iff]
      rw [← firstText_eq_some_iff, ← firstText_eq_some_iff]
      cases firstText descriptions.long <;> simp

/-- The numbering of the first block that has one. -/
def FirstNumbering (details : ProgramDetails) (numbering : EpisodeNumber) : Prop :=
  ∃ before after, details.numberings = before ++ some numbering :: after ∧
    ∀ block ∈ before, block = none

theorem episodeNumber_eq_some_iff {numbering : EpisodeNumber} :
    details.episodeNumber = some numbering ↔ FirstNumbering details numbering := by
  unfold episodeNumber FirstNumbering
  rw [List.findSome?_eq_some_iff]
  constructor
  · rintro ⟨before, block, after, hblocks, hblock, hbefore⟩
    cases hblock
    exact ⟨before, after, hblocks, hbefore⟩
  · rintro ⟨before, after, hblocks, hbefore⟩
    exact ⟨before, some numbering, after, hblocks, rfl, hbefore⟩

theorem not_isEntity_both {kind kind' : String}
    (hkinds : Text.sameIgnoringCase kind kind' = false) :
    ¬(details.isEntity kind = true ∧ details.isEntity kind' = true) := by
  unfold isEntity
  cases details.entityType with
  | none => simp
  | some entity =>
      rintro ⟨hkind, hkind'⟩
      have hsame := Text.sameIgnoringCase_of_same hkind hkind'
      rw [hkinds] at hsame
      cases hsame

end ProgramDetails

theorem Airing.stop_not_before (airing : Airing) :
    airing.stop.before airing.start = false := by
  have hself : airing.start.before airing.start = false := by simp [Instant.before]
  unfold stop
  split
  next hduration =>
    rw [Bool.and_eq_true, decide_eq_true_eq] at hduration
    cases hlater : airing.start.later? airing.duration 0 with
    | none => exact hself
    | some later => exact Instant.later?_not_before hduration.1 hlater
  next => exact hself

namespace ProgramRecord

open ProgramDetails

/-- A record that contradicts neither itself nor its sources. -/
structure Consistent (channel : String) (airing : Airing) (details : ProgramDetails)
    (record : ProgramRecord) : Prop where
  stop_not_before : record.stop.before record.start = false
  id_eq : airing.identity? channel = some record.id
  showId : record.showId = record.id ∨ ProgramId.IsRoot airing.programId record.showId
  series_iff_id : record.isSeries = true ↔ ∃ id, record.seriesId = some id
  series_iff_providers : record.isSeries = true ↔
    ∃ id, record.seriesId = some id ∧ record.seriesProviderIds = [("Zap2It", id)]
  no_providers : record.isSeries = false → record.seriesProviderIds = []
  seriesId_root : ∀ id, record.seriesId = some id → ProgramId.IsRoot airing.programId id
  season_iff : ∀ season, record.season = some season ↔ record.isSeries = true ∧
    ∃ numbering, FirstNumbering details numbering ∧ numbering.season = season
  episode_iff : ∀ episode, record.episode = some episode ↔ record.isSeries = true ∧
    0 < episode ∧ ∃ numbering, FirstNumbering details numbering ∧ numbering.episode = episode
  season_of_episode : ∀ episode, record.episode = some episode →
    ∃ season, record.season = some season
  overview_iff : ∀ text, record.overview = some text ↔
    ∃ descriptions, details.descriptions = some descriptions ∧
      (OpensWith descriptions.long text ∨
        (∀ other, ¬OpensWith descriptions.long other) ∧ OpensWith descriptions.short text)
  rating : ∀ rating, record.officialRating = some rating → Rating.Proper rating
  genres_eq : record.genres = (details.genres.getD []).filter (!Text.blank ·)
  news_iff : record.isNews = true ↔
    ∃ genre ∈ record.genres, Text.sameIgnoringCase genre "news" = true
  kids_iff : record.isKids = true ↔
    (∃ audience, details.audience = some audience ∧
      Text.sameIgnoringCase audience "children" = true) ∨
    ∃ genre ∈ record.genres, Text.sameIgnoringCase genre "children" = true
  not_movie_and_sports : ¬(record.isMovie = true ∧ record.isSports = true)

/-- The fields of a series stand together. -/
inductive SeriesFields (root : String) (record : ProgramRecord) : Prop
  | series (hkind : record.isSeries = true) (hid : record.seriesId = some root)
      (hproviders : record.seriesProviderIds = [("Zap2It", root)]) : SeriesFields root record
  | other (hkind : record.isSeries = false) (hid : record.seriesId = none)
      (hproviders : record.seriesProviderIds = []) : SeriesFields root record

namespace SeriesFields

variable {root : String} {record : ProgramRecord} (h : SeriesFields root record)

include h

theorem iff_id : record.isSeries = true ↔ ∃ id, record.seriesId = some id := by
  cases h with
  | series hkind hid => simp [hkind, hid]
  | other hkind hid => simp [hkind, hid]

theorem iff_providers : record.isSeries = true ↔
    ∃ id, record.seriesId = some id ∧ record.seriesProviderIds = [("Zap2It", id)] := by
  cases h with
  | series hkind hid hproviders => simp [hkind, hid, hproviders]
  | other hkind hid => simp [hkind, hid]

theorem no_providers (hkind : record.isSeries = false) : record.seriesProviderIds = [] := by
  cases h with
  | series hseries =>
      rw [hseries] at hkind
      cases hkind
  | other _ _ hproviders => exact hproviders

theorem eq_root {id : String} (hid : record.seriesId = some id) : root = id := by
  cases h with
  | series _ hroot => exact Option.some.inj (hroot.symm.trans hid)
  | other _ hnone =>
      rw [hnone] at hid
      cases hid

end SeriesFields

section Merge

variable {identity channel : String} {airing : Airing} {details : ProgramDetails}
variable {images : Option ProgramImages}

theorem seriesFields_ofIdentity :
    SeriesFields (ProgramId.root airing.programId)
      (ofIdentity identity channel airing details images) := by
  unfold ofIdentity
  cases details.isSeries airing.programId with
  | true => exact .series rfl rfl rfl
  | false => exact .other rfl rfl rfl

theorem showId_ofIdentity :
    (ofIdentity identity channel airing details images).showId = identity ∨
      ProgramId.IsRoot airing.programId
        (ofIdentity identity channel airing details images).showId := by
  by_cases hid : ProgramId.Unidentified airing.programId
  · exact .inl (ProgramId.showId_of_unidentified hid _)
  · have hroot := ProgramId.showId_of_identified hid identity
    exact .inr (ProgramId.isRoot_iff.mpr hroot.symm)

private theorem numbering_iff {series : Prop} [Decidable series] {numbering : EpisodeNumber} :
    (if series then details.episodeNumber else none) = some numbering ↔
      series ∧ FirstNumbering details numbering := by
  rw [Option.ite_none_right_eq_some, episodeNumber_eq_some_iff]

theorem season_ofIdentity {season : Int} :
    (ofIdentity identity channel airing details images).season = some season ↔
      details.isSeries airing.programId = true ∧
        ∃ numbering, FirstNumbering details numbering ∧ numbering.season = season := by
  unfold ofIdentity
  simp only [Option.map_eq_some_iff, numbering_iff, and_assoc, exists_and_left]

theorem episode_ofIdentity {episode : Int} :
    (ofIdentity identity channel airing details images).episode = some episode ↔
      details.isSeries airing.programId = true ∧ 0 < episode ∧
        ∃ numbering, FirstNumbering details numbering ∧ numbering.episode = episode := by
  unfold ofIdentity
  simp only [Option.filter_eq_some_iff, Option.map_eq_some_iff, numbering_iff, and_assoc,
    exists_and_left, decide_eq_true_eq]
  constructor
  · rintro ⟨hseries, hfirst, hpositive⟩
    exact ⟨hseries, hpositive, hfirst⟩
  · rintro ⟨hseries, hpositive, hfirst⟩
    exact ⟨hseries, hfirst, hpositive⟩

theorem season_of_episode_ofIdentity {episode : Int}
    (h : (ofIdentity identity channel airing details images).episode = some episode) :
    ∃ season, (ofIdentity identity channel airing details images).season = some season := by
  obtain ⟨hseries, -, numbering, hfirst, -⟩ := episode_ofIdentity.mp h
  exact ⟨numbering.season, season_ofIdentity.mpr ⟨hseries, numbering, hfirst, rfl⟩⟩

theorem rating_ofIdentity {rating : String}
    (h : (ofIdentity identity channel airing details images).officialRating = some rating) :
    Rating.Proper rating := by
  obtain ⟨code, -, hcode⟩ := Option.bind_eq_some_iff.mp h
  exact Rating.proper_of_normalize? hcode

theorem kids_ofIdentity :
    (ofIdentity identity channel airing details images).isKids = true ↔
      (∃ audience, details.audience = some audience ∧
        Text.sameIgnoringCase audience "children" = true) ∨
      ∃ genre ∈ (ofIdentity identity channel airing details images).genres,
        Text.sameIgnoringCase genre "children" = true := by
  unfold ofIdentity
  rw [Bool.or_eq_true, Option.any_eq_true, Text.listsIgnoringCase, List.any_eq_true]

theorem consistent_ofIdentity (hidentity : airing.identity? channel = some identity) :
    Consistent channel airing details
      (ofIdentity identity channel airing details images) where
  stop_not_before := airing.stop_not_before
  id_eq := hidentity
  showId := showId_ofIdentity
  series_iff_id := seriesFields_ofIdentity.iff_id
  series_iff_providers := seriesFields_ofIdentity.iff_providers
  no_providers := seriesFields_ofIdentity.no_providers
  seriesId_root := fun _ hid => ProgramId.isRoot_iff.mpr (seriesFields_ofIdentity.eq_root hid)
  season_iff := fun _ => season_ofIdentity
  episode_iff := fun _ => episode_ofIdentity
  season_of_episode := fun _ => season_of_episode_ofIdentity
  overview_iff := fun _ => overview_eq_some_iff
  rating := fun _ => rating_ofIdentity
  genres_eq := rfl
  news_iff := List.any_eq_true
  kids_iff := kids_ofIdentity
  not_movie_and_sports := not_isEntity_both (by decide)

/-- Whatever is merged, the record is consistent, and there is one if the start of the
airing has ticks. -/
theorem consistent_merge (channel : String) (airing : Airing) (details : ProgramDetails)
    (images : Option ProgramImages) :
    (∃ record, merge? channel airing details images = some record ∧
      Consistent channel airing details record) ∨
    merge? channel airing details images = none ∧ ¬airing.start.Spanned :=
  merge?_of_identity fun _ => consistent_ofIdentity

end Merge

end ProgramRecord

end ProgramGuide
