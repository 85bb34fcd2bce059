import Mathlib.Data.List.MinMax
import Mathlib.Data.Prod.Lex
import ProgramGuide.Proofs.Program.Join

/-!
# Pictures by role

The best of some candidates is the first of least rank.  Each picture of a program is
that of the best candidate for its role, among those with text, those without, or all.
-/

namespace ProgramGuide

namespace ArtworkCandidate

variable {desired : Binary64} {c d : ArtworkCandidate}

/-- A usable aspect goes before none, then the lesser distance from the desired one, then
the greater height. -/
def rank (desired : Binary64) (c : ArtworkCandidate) : Bool ×ₗ Int ×ₗ Int :=
  toLex (c.aspect.isZero, toLex ((desired.sub c.aspect).abs.orderKey, -c.heightPixels))

theorem compare_fit_eq_lt_iff :
    (c.fit desired).compare (d.fit desired) = .lt ↔ c.rank desired < d.rank desired := by
  have heq {α : Type} [LinearOrder α] (x y : α) : compareOfLessAndEq x y = .eq ↔ x = y :=
    compareOfLessAndEq_eq_eq (fun _ => le_rfl) not_le
  have hlt {x y : Bool} : x.toNat < y.toNat ↔ x < y := by
    cases x <;> cases y <;> decide
  have hsame {x y : Bool} : x.toNat = y.toNat ↔ x = y := by
    cases x <;> cases y <;> decide
  unfold Fit.compare rank fit
  rw [Prod.Lex.toLex_lt_toLex, Prod.Lex.toLex_lt_toLex, Ordering.then_eq_lt,
    Ordering.then_eq_lt, heq, heq]
  simp [compareOfLessAndEq_eq_lt, hlt, hsame]

/-- Whether the text flag is the answer, in any case. -/
def answers (answer : String) (c : ArtworkCandidate) : Bool :=
  c.text.any (Text.sameIgnoringCase · answer)

theorem hasText?_eq_some_true : (c.hasText? == some true) = c.answers "yes" := by
  unfold hasText? answers
  cases c.text with
  | none => rfl
  | some answer =>
      by_cases hyes : Text.sameIgnoringCase answer "yes" = true
      · simp [hyes]
      · by_cases hno : Text.sameIgnoringCase answer "no" = true <;> simp [hyes, hno]

theorem hasText?_eq_some_false : (c.hasText? == some false) = c.answers "no" := by
  unfold hasText? answers
  cases c.text with
  | none => rfl
  | some answer =>
      by_cases hyes : Text.sameIgnoringCase answer "yes" = true
      · have hno : Text.sameIgnoringCase answer "no" = false := by
          by_contra hno
          have hboth := Text.sameIgnoringCase_of_same hyes (by simpa using hno)
          exact absurd hboth (by decide)
        simp [hyes, hno]
      · by_cases hno : Text.sameIgnoringCase answer "no" = true <;> simp [hyes, hno]

end ArtworkCandidate

namespace Artwork

variable {desired : Binary64} {among : List ArtworkCandidate}

/-- The first of the candidates of least rank. -/
structure Best (desired : Binary64) (among : List ArtworkCandidate) (c : ArtworkCandidate) :
    Prop where
  mem : c ∈ among
  least : ∀ d ∈ among, c.rank desired ≤ d.rank desired
  first : ∀ d ∈ among, d.rank desired ≤ c.rank desired → among.idxOf c ≤ among.idxOf d

private theorem best_eq_foldl (chosen : ArtworkCandidate) :
    some (select?.best desired chosen among) =
      among.foldl (List.argAux fun c d => c.rank desired < d.rank desired) (some chosen) := by
  induction among generalizing chosen with
  | nil => rfl
  | cons c among ih =>
      have hstep : List.argAux (fun c d => c.rank desired < d.rank desired) (some chosen) c =
          if c.rank desired < chosen.rank desired then some c else some chosen := rfl
      rw [List.foldl_cons, hstep, select?.best]
      split
      next hbetter =>
        rw [if_pos (ArtworkCandidate.compare_fit_eq_lt_iff.mp hbetter), ih]
      next hbetter =>
        rw [if_neg (mt ArtworkCandidate.compare_fit_eq_lt_iff.mpr hbetter), ih]

theorem select?_eq_some_iff {c : ArtworkCandidate} :
    select? desired among = some c ↔ Best desired among c := by
  have hargmin : select? desired among = among.argmin (·.rank desired) := by
    cases among with
    | nil => rfl
    | cons first among => exact best_eq_foldl first
  rw [hargmin, List.argmin_eq_some_iff]
  constructor
  · rintro ⟨hmem, hleast, hfirst⟩
    exact ⟨hmem, hleast, hfirst⟩
  · rintro ⟨hmem, hleast, hfirst⟩
    exact ⟨hmem, hleast, hfirst⟩

end Artwork

namespace ProgramImages

open Artwork

variable {base : String} {desired : Binary64} {among candidates : List ArtworkCandidate}

/-- The candidate has an address for its picture, and this is where it leads. -/
def Shows (base : String) (c : ArtworkCandidate) (url : String) : Prop :=
  ∃ uri, c.uri = some uri ∧ Text.blank uri = false ∧ url = Address.image base uri

def Leads (base : String) (desired : Binary64) (among : List ArtworkCandidate)
    (url : String) : Prop :=
  ∃ c, Best desired among c ∧ Shows base c url

theorem location?_eq_some_iff {c : ArtworkCandidate} {url : String} :
    location? base c = some url ↔ Shows base c url := by
  unfold location? Shows
  rw [Option.map_eq_some_iff]
  constructor
  · rintro ⟨uri, huri, rfl⟩
    rw [Option.bind_eq_some_iff] at huri
    obtain ⟨given, hgiven, huri⟩ := huri
    obtain ⟨rfl, hblank⟩ := Text.nonBlank?_eq_some_iff.mp huri
    exact ⟨given, hgiven, hblank, rfl⟩
  · rintro ⟨uri, huri, hblank, rfl⟩
    refine ⟨uri, ?_, rfl⟩
    rw [huri, Option.bind_some]
    exact Text.nonBlank?_eq_some_iff.mpr ⟨rfl, hblank⟩

theorem chosen_eq_some_iff {url : String} :
    (select? desired among).bind (location? base) = some url ↔ Leads base desired among url := by
  rw [Option.bind_eq_some_iff]
  apply exists_congr
  intro c
  rw [select?_eq_some_iff, location?_eq_some_iff]

theorem chosen_eq_none_iff :
    (select? desired among).bind (location? base) = none ↔
      ∀ url, ¬Leads base desired among url := by
  rw [Option.eq_none_iff_forall_ne_some]
  apply forall_congr'
  intro url
  rw [ne_eq, chosen_eq_some_iff]

/-- Which candidates the pictures are of.  A flag that says neither counts for neither. -/
structure Roles (base : String) (candidates : List ArtworkCandidate)
    (images : ProgramImages) : Prop where
  primary_iff : ∀ url, images.primary = some url ↔
    Leads base portrait (candidates.filter (·.answers "yes")) url ∨
      (∀ other, ¬Leads base portrait (candidates.filter (·.answers "yes")) other) ∧
        Leads base portrait candidates url
  thumb_iff : ∀ url, images.thumb = some url ↔
    Leads base wide (candidates.filter (·.answers "yes")) url ∧ images.primary ≠ some url
  backdrop_iff : ∀ url, images.backdrop = some url ↔
    Leads base wide (candidates.filter (·.answers "no")) url
  shown : ∀ url, images.primary = some url ∨ images.thumb = some url ∨
    images.backdrop = some url → ∃ c ∈ candidates, Shows base c url
  unmarked : ∀ c, c.answers "yes" = false → c.answers "no" = false →
    ¬Best wide (candidates.filter (·.answers "yes")) c ∧
      ¬Best wide (candidates.filter (·.answers "no")) c

private theorem filter_hasText? :
    candidates.filter (·.hasText? == some true) = candidates.filter (·.answers "yes") ∧
      candidates.filter (·.hasText? == some false) = candidates.filter (·.answers "no") :=
  ⟨List.filter_congr fun _ _ => ArtworkCandidate.hasText?_eq_some_true,
    List.filter_congr fun _ _ => ArtworkCandidate.hasText?_eq_some_false⟩

theorem primary_choose (url : String) : (choose base candidates).primary = some url ↔
    Leads base portrait (candidates.filter (·.answers "yes")) url ∨
      (∀ other, ¬Leads base portrait (candidates.filter (·.answers "yes")) other) ∧
        Leads base portrait candidates url := by
  rw [← chosen_eq_some_iff, ← chosen_eq_some_iff, ← chosen_eq_none_iff]
  unfold choose
  simp only [filter_hasText?.1]
  split
  next uri huri => simp [huri]
  next hnone => simp [hnone]

theorem thumb_choose (url : String) : (choose base candidates).thumb = some url ↔
    Leads base wide (candidates.filter (·.answers "yes")) url ∧
      (choose base candidates).primary ≠ some url := by
  rw [← chosen_eq_some_iff, ← filter_hasText?.1, ← bne_iff_ne]
  exact Option.filter_eq_some_iff

theorem backdrop_choose (url : String) : (choose base candidates).backdrop = some url ↔
    Leads base wide (candidates.filter (·.answers "no")) url := by
  rw [← chosen_eq_some_iff, ← filter_hasText?.2]
  rfl

private theorem exists_shows_of_leads {keep : ArtworkCandidate → Bool} {url : String}
    (h : Leads base desired (candidates.filter keep) url) :
    ∃ c ∈ candidates, Shows base c url := by
  obtain ⟨c, hbest, hshows⟩ := h
  exact ⟨c, List.mem_of_mem_filter hbest.mem, hshows⟩

theorem roles_choose (base : String) (candidates : List ArtworkCandidate) :
    Roles base candidates (choose base candidates) where
  primary_iff := primary_choose
  thumb_iff := thumb_choose
  backdrop_iff := backdrop_choose
  shown := by
    rintro url (hprimary | hthumb | hbackdrop)
    · rcases (primary_choose url).mp hprimary with hyes | ⟨-, c, hbest, hshows⟩
      · exact exists_shows_of_leads hyes
      · exact ⟨c, hbest.mem, hshows⟩
    · exact exists_shows_of_leads ((thumb_choose url).mp hthumb).1
    · exact exists_shows_of_leads ((backdrop_choose url).mp hbackdrop)
  unmarked := by
    intro c hyes hno
    constructor <;> intro hbest
    · have hmem := List.of_mem_filter hbest.mem
      simp [hyes] at hmem
    · have hmem := List.of_mem_filter hbest.mem
      simp [hno] at hmem

end ProgramImages

namespace ProgramRecord

def images (r : ProgramRecord) : ProgramImages :=
  ⟨r.imageUrl, r.thumbImageUrl, r.backdropImageUrl⟩

theorem images_of_merge? {channel base : String} {airing : Airing} {details : ProgramDetails}
    {found : Option (List ArtworkCandidate)} {record : ProgramRecord}
    (h : merge? channel airing details (found.map (ProgramImages.choose base)) = some record) :
    record.images = ProgramImages.choose base (found.getD []) := by
  obtain ⟨identity, -, rfl⟩ := merge?_eq_some_iff.mp h
  cases found <;> rfl

end ProgramRecord

open ProgramRecord ProgramImages in
/-- Pictures are chosen by role, those of a program and so those of the records of a
schedule: each has the pictures of its root, or none without candidates. -/
theorem pictures_by_role :
    (∀ (base : String) (candidates : List ArtworkCandidate),
      Roles base candidates (choose base candidates)) ∧
    ∀ (channel base : String) (days : List ScheduleDay) (details : List ProgramDetails)
      (artwork : ArtworkIndex) (records : List ProgramRecord),
      mergeAll channel days details artwork base = .ok records →
      List.Forall₂ (fun airing record =>
        Roles base ((artwork.get? (ProgramId.root airing.programId)).getD []) record.images)
        (airingsOf days) records := by
  refine ⟨roles_choose, ?_⟩
  intro channel base days details artwork records h
  apply (mergeAll_eq_ok_iff.mp h).imp
  intro airing record hrecord
  obtain ⟨found, -, hmerge⟩ := ofAiring_eq_ok_iff.mp hrecord
  rw [images_of_merge? hmerge]
  exact roles_choose base _

open Rerun ProgramRecord ProgramImages in
theorem pictures_by_role_rerun :
    ∃ records, mergeAll "20454" days details artwork "" = .ok records ∧
      List.Forall₂ (fun airing record =>
        Roles "" ((artwork.get? (ProgramId.root airing.programId)).getD []) record.images)
        (airingsOf days) records :=
  ⟨_, rfl, pictures_by_role.2 "20454" "" days details artwork _ rfl⟩

end ProgramGuide
