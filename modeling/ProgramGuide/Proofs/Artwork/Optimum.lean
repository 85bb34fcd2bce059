import Mathlib.Algebra.Group.Int.Defs
import ProgramGuide.Proofs.Artwork.Selection
import ProgramGuide.Proofs.Number.Binary64

/-!
# The strict optimum

The fits of candidates are totally preordered.  The candidate chosen is the first that
none fits better, it fits alike in whatever order the candidates come, and it has no shape
only when none has.  Whether it has a picture is not asked before it is chosen.
-/

namespace ProgramGuide

namespace ArtworkCandidate

/-- Why a dimension counts as zero. -/
inductive Unmeasured : Option String → Prop
  | missing : Unmeasured none
  | notNumeric {s : String} (h : Text.integer? (Text.trimChars s.toList) = none) :
      Unmeasured (some s)
  | outOfRange {s : String} {n : Int} (h : Text.integer? (Text.trimChars s.toList) = some n)
      (hrange : ¬(-2 ^ 63 ≤ n ∧ n < 2 ^ 63)) : Unmeasured (some s)
  | zero {s : String} (h : Text.integer? (Text.trimChars s.toList) = some 0) :
      Unmeasured (some s)

def Shapeless (c : ArtworkCandidate) : Prop := Unmeasured c.width ∨ Unmeasured c.height

theorem pixels_some {s : String} {n : Int}
    (h : Text.integer? (Text.trimChars s.toList) = some n) :
    pixels (some s) = if -2 ^ 63 ≤ n ∧ n < 2 ^ 63 then n else 0 := by
  have hpow : Int.pow 2 (64 - 1) = 2 ^ 63 := rfl
  simp only [pixels, Option.bind_some, Text.signed?, h, Option.filter_some, hpow,
    Bool.and_eq_true, decide_eq_true_eq]
  split <;> rfl

theorem pixels_eq_zero_iff {dimension : Option String} :
    pixels dimension = 0 ↔ Unmeasured dimension := by
  cases dimension with
  | none => exact iff_of_true rfl .missing
  | some s =>
      cases hread : Text.integer? (Text.trimChars s.toList) with
      | none => exact iff_of_true (by simp [pixels, Text.signed?, hread]) (.notNumeric hread)
      | some n =>
          rw [pixels_some hread]
          split
          next hrange =>
            constructor
            · rintro rfl
              exact .zero hread
            · intro hunmeasured
              cases hunmeasured with
              | notNumeric h => simp [hread] at h
              | outOfRange h hout =>
                  cases hread.symm.trans h
                  exact absurd hrange hout
              | zero h =>
                  cases hread.symm.trans h
                  rfl
          next hrange => exact iff_of_true rfl (.outOfRange hread hrange)

theorem natAbs_pixels_le (dimension : Option String) : (pixels dimension).natAbs ≤ 2 ^ 63 := by
  cases dimension with
  | none => decide
  | some s =>
      cases hread : Text.integer? (Text.trimChars s.toList) with
      | none => simp [pixels, Text.signed?, hread]
      | some n =>
          rw [pixels_some hread]
          split <;> omega

variable {desired : Binary64} {c d : ArtworkCandidate}

theorem aspect_of_zero (h : c.widthPixels = 0 ∨ c.heightPixels = 0) :
    c.aspect = Binary64.zero :=
  if_pos (by simpa using h)

theorem aspect_of_nonzero (h : ¬(c.widthPixels = 0 ∨ c.heightPixels = 0)) :
    c.aspect.isZero = false ∧ c.aspect.isNaN = false := by
  have haspect : c.aspect =
      (Binary64.ofInt c.widthPixels).div (Binary64.ofInt c.heightPixels) :=
    if_neg (by simpa using h)
  obtain ⟨hwidth, hheight⟩ := not_or.mp h
  rw [haspect]
  exact Binary64.div_ofInt hwidth hheight (natAbs_pixels_le _) (natAbs_pixels_le _)

theorem aspect_isZero_iff : c.aspect.isZero = true ↔ c.Shapeless := by
  unfold Shapeless
  rw [← pixels_eq_zero_iff, ← pixels_eq_zero_iff]
  by_cases hzero : c.widthPixels = 0 ∨ c.heightPixels = 0
  · exact iff_of_true (by rw [aspect_of_zero hzero]; rfl) hzero
  · exact iff_of_false (by simp [aspect_of_nonzero hzero]) hzero

theorem aspect_isNaN (c : ArtworkCandidate) : c.aspect.isNaN = false := by
  by_cases hzero : c.widthPixels = 0 ∨ c.heightPixels = 0
  · rw [aspect_of_zero hzero]
    rfl
  · exact (aspect_of_nonzero hzero).2

theorem compare_fit (desired : Binary64) (c d : ArtworkCandidate) :
    (c.fit desired).compare (d.fit desired) = compare (c.rank desired) (d.rank desired) := by
  have hclass (x y : Bool) : compareOfLessAndEq x.toNat y.toNat = compare x y := by
    cases x <;> cases y <;> rfl
  -- The heights are compared the other way round, which the rank says by the sign.
  have hheight : compareOfLessAndEq d.heightPixels c.heightPixels =
      compare (-c.heightPixels) (-d.heightPixels) := by
    simp [compare, compareOfLessAndEq, eq_comm]
  unfold Fit.compare fit
  dsimp only
  rw [hclass, hheight]
  rfl

theorem transCmp_fit (desired : Binary64) : Std.TransCmp fun c d : ArtworkCandidate =>
    (c.fit desired).compare (d.fit desired) := by
  simp only [compare_fit]
  exact inferInstanceAs (Std.TransCmp (compareOn (rank desired)))

theorem rank_eq_iff : c.rank desired = d.rank desired ↔ c.aspect.isZero = d.aspect.isZero ∧
    (desired.sub c.aspect).abs = (desired.sub d.aspect).abs ∧
      c.heightPixels = d.heightPixels := by
  have hdistance (x y : Binary64) : x.abs.orderKey = y.abs.orderKey ↔ x.abs = y.abs := by
    rw [Binary64.abs, Binary64.abs, Binary64.mk.injEq, eq_self, true_and]
    exact Int.ofNat_inj
  simp [rank, hdistance]

theorem isZero_of_rank_le (h : c.rank desired ≤ d.rank desired)
    (hzero : c.aspect.isZero = true) : d.aspect.isZero = true := by
  rcases Prod.Lex.toLex_le_toLex.mp h with hclass | ⟨hclass, -⟩
  · rw [hzero] at hclass
    exact absurd hclass (not_lt_of_ge (Bool.le_true _))
  · exact hclass.symm.trans hzero

end ArtworkCandidate

namespace Artwork

open ArtworkCandidate

variable {desired : Binary64} {among other : List ArtworkCandidate} {place : Nat}
variable {c d : ArtworkCandidate}

/-- The candidate at the place is of least rank, and those before it are not. -/
structure Optimum (desired : Binary64) (among : List ArtworkCandidate) (place : Nat)
    (c : ArtworkCandidate) : Prop where
  get : among[place]? = some c
  least : ∀ d ∈ among, c.rank desired ≤ d.rank desired
  first : ∀ d ∈ among.take place, c.rank desired < d.rank desired

theorem optimum_iff :
    Optimum desired among place c ↔ Best desired among c ∧ among.idxOf? c = some place := by
  have hidx (h : among.idxOf? c = some place) : among.idxOf c = place := by
    rw [List.idxOf_eq_getD_idxOf?, h, Option.getD_some]
  constructor
  · rintro ⟨hget, hleast, hfirst⟩
    obtain ⟨hlength, hc⟩ := List.getElem?_eq_some_iff.mp hget
    have hplace : among.idxOf? c = some place := by
      refine List.idxOf?_eq_some_iff.mpr ⟨hlength, hc, ?_⟩
      intro earlier hearlier heq
      -- One like it before its place would be worse than itself.
      exact lt_irrefl _ (hfirst c (List.mem_take_iff_getElem.mpr ⟨earlier, by omega, heq⟩))
    refine ⟨⟨List.mem_of_getElem? hget, hleast, ?_⟩, hplace⟩
    intro d hd hrank
    by_contra hbefore
    rw [hidx hplace, Nat.not_le] at hbefore
    exact not_lt_of_ge hrank (hfirst d ((List.mem_take_iff_idxOf_lt hd).mpr hbefore))
  · rintro ⟨⟨-, hleast, hfirst⟩, hplace⟩
    obtain ⟨hlength, hc, -⟩ := List.idxOf?_eq_some_iff.mp hplace
    refine ⟨List.getElem?_eq_some_iff.mpr ⟨hlength, hc⟩, hleast, ?_⟩
    intro d hd
    have hmem := List.mem_of_mem_take hd
    by_contra hrank
    have hbefore := (List.mem_take_iff_idxOf_lt hmem).mp hd
    have hafter := hfirst d hmem (not_lt.mp hrank)
    rw [hidx hplace] at hafter
    omega

theorem select?_eq_some_iff_optimum :
    select? desired among = some c ↔ ∃ place, Optimum desired among place c := by
  rw [select?_eq_some_iff]
  constructor
  · intro hbest
    obtain ⟨place, hplace⟩ := Option.isSome_iff_exists.mp (List.isSome_idxOf?.mpr hbest.mem)
    exact ⟨place, optimum_iff.mpr ⟨hbest, hplace⟩⟩
  · rintro ⟨place, hoptimum⟩
    exact (optimum_iff.mp hoptimum).1

theorem place?_eq_some_iff :
    place? desired among = some place ↔ ∃ c, Optimum desired among place c := by
  rw [place?, Option.bind_eq_some_iff]
  apply exists_congr
  intro c
  rw [select?_eq_some_iff, optimum_iff]

structure Choice (desired : Binary64) (among : List ArtworkCandidate) : Prop where
  none_iff : select? desired among = none ↔ among = []
  some_iff : ∀ c, select? desired among = some c ↔ ∃ place, Optimum desired among place c
  place_iff : ∀ place, place? desired among = some place ↔ ∃ c, Optimum desired among place c
  shapeless : ∀ c, select? desired among = some c → c.Shapeless → ∀ d ∈ among, d.Shapeless
  permuted : ∀ other, among.Perm other → ∀ c d, select? desired among = some c →
    select? desired other = some d → c.aspect.isZero = d.aspect.isZero ∧
      (desired.sub c.aspect).abs = (desired.sub d.aspect).abs ∧ c.heightPixels = d.heightPixels

theorem select?_eq_none_iff : select? desired among = none ↔ among = [] := by
  cases among with
  | nil => exact iff_of_true rfl rfl
  | cons c among => exact iff_of_false nofun nofun

theorem shapeless_of_select? (h : select? desired among = some c) (hc : c.Shapeless) :
    ∀ d ∈ among, d.Shapeless := by
  intro d hd
  rw [← aspect_isZero_iff] at hc ⊢
  exact isZero_of_rank_le ((select?_eq_some_iff.mp h).least d hd) hc

theorem rank_eq_of_perm (hperm : among.Perm other) (hc : select? desired among = some c)
    (hd : select? desired other = some d) : c.rank desired = d.rank desired := by
  have hc := select?_eq_some_iff.mp hc
  have hd := select?_eq_some_iff.mp hd
  exact le_antisymm (hc.least d (hperm.mem_iff.mpr hd.mem)) (hd.least c (hperm.mem_iff.mp hc.mem))

theorem choice (desired : Binary64) (among : List ArtworkCandidate) : Choice desired among where
  none_iff := select?_eq_none_iff
  some_iff _ := select?_eq_some_iff_optimum
  place_iff _ := place?_eq_some_iff
  shapeless _ := shapeless_of_select?
  permuted _ hperm _ _ hc hd := rank_eq_iff.mp (rank_eq_of_perm hperm hc hd)

end Artwork

/-- The strict optimum is selected, and a candidate has no aspect only when one of its
dimensions is not measured. -/
theorem Artwork.selects_optimum (desired : Binary64) :
    (Std.TransCmp fun c d : ArtworkCandidate => (c.fit desired).compare (d.fit desired)) ∧
      (∀ c : ArtworkCandidate,
        (c.aspect.isZero = true ↔ c.Shapeless) ∧ c.aspect.isNaN = false) ∧
      ∀ among, Choice desired among :=
  ⟨ArtworkCandidate.transCmp_fit desired,
    fun c => ⟨c.aspect_isZero_iff, c.aspect_isNaN⟩, choice desired⟩

/-- Of two that fit alike the earlier is selected. -/
example : Artwork.place? Artwork.portrait
    [.ofDimensions "240" "360" true "small.jpg", .ofDimensions "960" "1440" true "large.jpg",
      .ofDimensions "960" "1440" true "large-dup.jpg"] = some 1 := by
  decide +kernel

/-! ## Usable pictures -/

/-- The candidate has an address for its picture. -/
def ArtworkCandidate.Usable (c : ArtworkCandidate) : Prop :=
  ∃ uri, c.uri = some uri ∧ Text.blank uri = false

namespace ProgramImages

open Artwork

variable {base : String} {desired : Binary64} {among candidates : List ArtworkCandidate}
variable {c : ArtworkCandidate}

theorem exists_shows_iff : (∃ url, Shows base c url) ↔ c.Usable := by
  constructor
  · rintro ⟨-, uri, huri, hblank, -⟩
    exact ⟨uri, huri, hblank⟩
  · rintro ⟨uri, huri, hblank⟩
    exact ⟨_, uri, huri, hblank, rfl⟩

theorem exists_leads_iff :
    (∃ url, Leads base desired among url) ↔ ∃ c, Best desired among c ∧ c.Usable := by
  constructor
  · rintro ⟨url, c, hbest, hshows⟩
    exact ⟨c, hbest, exists_shows_iff.mp ⟨url, hshows⟩⟩
  · rintro ⟨c, hbest, husable⟩
    obtain ⟨url, hshows⟩ := exists_shows_iff.mpr husable
    exact ⟨url, c, hbest, hshows⟩

theorem isSome_primary_iff : (choose base candidates).primary.isSome = true ↔
    (∃ url, Leads base portrait (candidates.filter (·.answers "yes")) url) ∨
      ∃ url, Leads base portrait candidates url := by
  rw [Option.isSome_iff_exists]
  simp only [primary_choose]
  constructor
  · rintro ⟨url, hyes | ⟨-, hall⟩⟩
    · exact .inl ⟨url, hyes⟩
    · exact .inr ⟨url, hall⟩
  · intro h
    by_cases hyes : ∃ url, Leads base portrait (candidates.filter (·.answers "yes")) url
    · obtain ⟨url, hyes⟩ := hyes
      exact ⟨url, .inl hyes⟩
    · obtain ⟨url, hall⟩ := h.resolve_left hyes
      exact ⟨url, .inr ⟨not_exists.mp hyes, hall⟩⟩

/-- No picture is lost where every candidate has one. -/
theorem primary_of_usable (hcandidates : candidates ≠ []) (h : ∀ c ∈ candidates, c.Usable) :
    (choose base candidates).primary.isSome = true := by
  rw [isSome_primary_iff, exists_leads_iff, exists_leads_iff]
  cases hselected : select? portrait candidates with
  | none => exact absurd (select?_eq_none_iff.mp hselected) hcandidates
  | some c =>
      have hbest := select?_eq_some_iff.mp hselected
      exact .inr ⟨c, hbest, h c hbest.mem⟩

/-- A primary picture is that of a candidate that no other fits better, with text or at
all; a usable picture of another candidate does not replace it. -/
theorem primary_iff_usable_best (base : String) (candidates : List ArtworkCandidate) :
    (choose base candidates).primary.isSome = true ↔ ∃ c, c.Usable ∧
      (Best portrait (candidates.filter (·.answers "yes")) c ∨ Best portrait candidates c) := by
  rw [isSome_primary_iff, exists_leads_iff, exists_leads_iff, ← exists_or]
  apply exists_congr
  intro c
  rw [← or_and_right, and_comm]

/-- The candidate of the better shape has no address. -/
def eclipsed : List ArtworkCandidate :=
  [⟨some "2", some "3", some "", some "yes"⟩, ⟨some "16", some "9", some "a.jpg", none⟩]

theorem not_primary_of_usable :
    ¬∀ (base : String) (candidates : List ArtworkCandidate), (∃ c ∈ candidates, c.Usable) →
      (choose base candidates).primary.isSome = true := by
  intro h
  have husable : ∃ c ∈ eclipsed, c.Usable :=
    ⟨_, List.mem_cons_of_mem _ (List.mem_singleton_self _), "a.jpg", rfl, by decide⟩
  have hlost : (choose "" eclipsed).primary.isSome = false := by decide +kernel
  simpa [hlost] using h "" eclipsed husable

end ProgramImages

end ProgramGuide
