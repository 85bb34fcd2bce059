import ProgramGuide.Proofs.Calendar.Instant
import ProgramGuide.Proofs.Schedule.Identity
import ProgramGuide.Proofs.Text.Bytes

/-!
# Shows

Airings belong to one show when their records have the same show id.  Identified
programs are grouped by root; an unidentified one stays with airings of its own identity,
which is too long for a root.
-/

namespace ProgramGuide

namespace ProgramId

variable {id root : String}

/-- The root of an id: its first ten bytes, or the id itself when no characters of it
take up ten. -/
inductive IsRoot (id : String) : String → Prop
  | cut {root : String} (hstart : root.toList <+: id.toList)
      (hlength : Text.byteLength root.toList = 10) : IsRoot id root
  | whole (h : ∀ taken, taken <+: id.toList → Text.byteLength taken ≠ 10) : IsRoot id id

theorem isRoot_iff : IsRoot id root ↔ ProgramId.root id = root := by
  unfold ProgramId.root
  constructor
  · intro h
    cases h with
    | cut hstart hlength =>
        rw [Text.takeBytes?_eq_some_iff.mpr ⟨hstart, hlength⟩]
        exact String.ofList_toList
    | whole h => rw [Text.takeBytes?_eq_none_iff.mpr h]
  · rintro rfl
    split
    next taken htaken =>
      obtain ⟨hstart, hlength⟩ := Text.takeBytes?_eq_some_iff.mp htaken
      exact .cut (by simpa using hstart) (by simpa using hlength)
    next hnone => exact .whole (Text.takeBytes?_eq_none_iff.mp hnone)

theorem length_root_le (hascii : Text.Ascii id) : (ProgramId.root id).toList.length ≤ 10 := by
  have hroot : IsRoot id (ProgramId.root id) := isRoot_iff.mpr rfl
  generalize ProgramId.root id = root at hroot
  cases hroot with
  | cut hstart hlength =>
      have hbytes := Text.byteLength_of_ascii fun c hc => hascii c (hstart.mem hc)
      omega
  | whole h =>
      by_contra hlong
      apply h (id.toList.take 10) (List.take_prefix 10 _)
      rw [Text.byteLength_of_ascii fun c hc => hascii c (List.mem_of_mem_take hc),
        List.length_take]
      omega

/-- An id that starts with `SH` and ends in `0000`, in any case. -/
def Unidentified (id : String) : Prop :=
  ∃ s h middle, id.toList = s :: h :: (middle ++ ['0', '0', '0', '0']) ∧
    (s = 'S' ∨ s = 's') ∧ (h = 'H' ∨ h = 'h')

private theorem toLower_eq_zero_iff {c : Char} : c.toLower = '0' ↔ c = '0' := by
  constructor
  · intro h
    have hzero : '0'.toNat = 48 := rfl
    cases Text.eq_or_before_of_toLower h with
    | inl hc => exact hc
    | inr hc => omega
  · rintro rfl
    rfl

private theorem toLower_eq_iff {c lower upper : Char} (hlower : lower.toLower = lower)
    (hupper : upper.toLower = lower) (hplace : upper.toNat + 32 = lower.toNat) :
    c.toLower = lower ↔ c = upper ∨ c = lower := by
  constructor
  · intro h
    cases Text.eq_or_before_of_toLower h with
    | inl hc => exact .inr hc
    | inr hc => exact .inl (Char.toNat_inj.mp (by omega))
  · rintro (rfl | rfl)
    · exact hupper
    · exact hlower

private theorem startsIgnoringCase_iff : Text.startsIgnoringCase "SH" id = true ↔
    ∃ s h rest, id.toList = s :: h :: rest ∧ (s = 'S' ∨ s = 's') ∧ (h = 'H' ∨ h = 'h') := by
  have hfold : Text.foldCase "SH".toList = ['s', 'h'] := by decide
  unfold Text.startsIgnoringCase
  rw [hfold, List.isPrefixOf_iff_prefix, Text.foldCase]
  match id.toList with
  | [] => simp
  | [c] => simp
  | s :: h :: rest =>
      have hs : s.toLower = 's' ↔ s = 'S' ∨ s = 's' := toLower_eq_iff rfl rfl rfl
      have hh : h.toLower = 'h' ↔ h = 'H' ∨ h = 'h' := toLower_eq_iff rfl rfl rfl
      simp [← hs, ← hh, eq_comm]

private theorem endsIgnoringCase_iff :
    Text.endsIgnoringCase "0000" id = true ↔ ['0', '0', '0', '0'] <:+ id.toList := by
  have hfold : Text.foldCase "0000".toList = ['0', '0', '0', '0'] := by decide
  unfold Text.endsIgnoringCase Text.foldCase at *
  rw [hfold, List.isSuffixOf_iff_suffix, List.suffix_map_iff]
  simp only [eq_comm (b := List.map _ _), List.map_eq_cons_iff, List.map_eq_nil_iff,
    toLower_eq_zero_iff]
  constructor
  · rintro ⟨_, hsuffix, _, _, rfl, rfl, _, _, rfl, rfl, _, _, rfl, rfl, _, _, rfl, rfl, rfl⟩
    exact hsuffix
  · intro hsuffix
    exact ⟨_, hsuffix, _, _, rfl, rfl, _, _, rfl, rfl, _, _, rfl, rfl, _, _, rfl, rfl, rfl⟩

theorem isUnidentified_iff : isUnidentified id = true ↔ Unidentified id := by
  unfold isUnidentified isGeneric Unidentified
  rw [Bool.and_eq_true, startsIgnoringCase_iff, endsIgnoringCase_iff]
  constructor
  · rintro ⟨⟨s, h, rest, hid, hs, hh⟩, hend⟩
    rw [hid, List.suffix_cons_iff, List.suffix_cons_iff] at hend
    rcases hend with hend | hend | ⟨middle, rfl⟩
    · rcases hs with rfl | rfl <;> simp at hend
    · rcases hh with rfl | rfl <;> simp at hend
    · exact ⟨s, h, middle, hid, hs, hh⟩
  · rintro ⟨s, h, middle, hid, hs, hh⟩
    refine ⟨⟨s, h, _, hid, hs, hh⟩, ?_⟩
    rw [hid]
    exact ⟨s :: h :: middle, by simp⟩

theorem length_of_unidentified (h : Unidentified id) : 6 ≤ id.toList.length := by
  obtain ⟨s, h, middle, hid, -⟩ := h
  simp [hid]

theorem showId_of_unidentified (h : Unidentified id) (identity : String) :
    showId id identity = identity := by
  unfold showId
  rw [if_pos (isUnidentified_iff.mpr h)]

theorem showId_of_identified (h : ¬Unidentified id) (identity : String) :
    showId id identity = ProgramId.root id := by
  unfold showId
  rw [if_neg (mt isUnidentified_iff.mp h)]

end ProgramId

namespace Airing

variable {a b : Airing} {channel identity : String}

theorem lt_length_identity (hidentity : a.identity? channel = some identity)
    (hid : ProgramId.Unidentified a.programId) (hstart : a.start.InYears 1900 9999) :
    10 < identity.toList.length := by
  obtain ⟨-, rfl⟩ := identity?_eq_some_iff.mp hidentity
  have hprogram := ProgramId.length_of_unidentified hid
  have hunits := Instant.le_units_of_inYears hstart
  have hnumeral : 16 < (Text.integer a.start.units).toList.length := by
    have hdigits : Nat.pow 10 16 ≤ a.start.units.natAbs := by
      have hpow : Nat.pow 10 16 = 10000000000000000 := rfl
      omega
    rw [Text.integer_of_nonneg (by omega)]
    exact Text.lt_length_natural (by omega) hdigits
  rw [toList_identityAt]
  simp only [List.length_append, List.length_cons]
  omega

theorem identity_ne_root (hidentity : a.identity? channel = some identity)
    (hid : ProgramId.Unidentified a.programId) (hstart : a.start.InYears 1900 9999)
    (hascii : Text.Ascii b.programId) : identity ≠ ProgramId.root b.programId := by
  intro h
  have hlong := lt_length_identity hidentity hid hstart
  have hshort := ProgramId.length_root_le hascii
  rw [h] at hlong
  omega

theorem identity?_of_inYears (channel : String) (hstart : a.start.InYears 1900 9999) :
    a.identity? channel = some (a.identityAt a.start.units channel) :=
  identity?_eq_some_iff.mpr
    ⟨Instant.spanned_of_inYears (hstart.mono (by omega) (by omega)), rfl⟩

end Airing

open ProgramId in
/-- Two records of a channel are of one show exactly when both programs are identified and
have one root, or neither is and they have one identity. -/
theorem showId_eq_iff {channel : String} {a b : Airing} (details details' : ProgramDetails)
    (images images' : Option ProgramImages) (ha : Text.Ascii a.programId)
    (hb : Text.Ascii b.programId) (hastart : a.start.InYears 1900 9999)
    (hbstart : b.start.InYears 1900 9999) :
    ∃ first second, ProgramRecord.merge? channel a details images = some first ∧
      ProgramRecord.merge? channel b details' images' = some second ∧
      (first.showId = second.showId ↔
        (¬Unidentified a.programId ∧ ¬Unidentified b.programId ∧
          ∃ root, IsRoot a.programId root ∧ IsRoot b.programId root) ∨
        (Unidentified a.programId ∧ Unidentified b.programId ∧ a.Coincides b)) := by
  have hafull := Airing.identity?_of_inYears channel hastart
  have hbfull := Airing.identity?_of_inYears channel hbstart
  refine ⟨_, _, ProgramRecord.merge?_eq_some_iff.mpr ⟨_, hafull, rfl⟩,
    ProgramRecord.merge?_eq_some_iff.mpr ⟨_, hbfull, rfl⟩, ?_⟩
  change showId a.programId _ = showId b.programId _ ↔ _
  by_cases haid : Unidentified a.programId <;> by_cases hbid : Unidentified b.programId
  · rw [showId_of_unidentified haid, showId_of_unidentified hbid]
    simp [haid, hbid, Airing.identity_eq_iff hafull hbfull]
  · rw [showId_of_unidentified haid, showId_of_identified hbid]
    simp [haid, hbid, Airing.identity_ne_root hafull haid hastart hb]
  · rw [showId_of_identified haid, showId_of_unidentified hbid]
    simp [haid, hbid, (Airing.identity_ne_root hbfull hbid hbstart ha).symm]
  · rw [showId_of_identified haid, showId_of_identified hbid]
    simp [haid, hbid, isRoot_iff, eq_comm]

/-! ## Two nights of unnamed episodes -/

namespace Unnamed

def night (id : String) (day : Int) : Airing :=
  ⟨id, ⟨day * 86400, 0⟩, 3600, none, none, none, none, none, false, none⟩

def details (id : String) : ProgramDetails :=
  ⟨id, [], none, none, none, [], none, none, none, [], none, false⟩

def merge? (id : String) (day : Int) : Option ProgramRecord :=
  ProgramRecord.merge? "T7" (night id day) (details id) none

theorem inYears_first : Instant.InYears 1900 9999 ⟨1 * 86400, 0⟩ :=
  ⟨by decide, by decide, by decide⟩

theorem inYears_second : Instant.InYears 1900 9999 ⟨2 * 86400, 0⟩ :=
  ⟨by decide, by decide, by decide⟩

end Unnamed

open Unnamed ProgramId in
/-- One unidentified program on two nights is two shows; two episodes are one. -/
theorem showId_eq_iff_unnamed :
    (∃ first second, merge? "sh012345670000" 1 = some first ∧
      merge? "sh012345670000" 2 = some second ∧ first.showId ≠ second.showId) ∧
    ∃ first second, merge? "EP012345670001" 1 = some first ∧
      merge? "EP012345670002" 2 = some second ∧ first.showId = second.showId := by
  constructor
  · have hunnamed : Unidentified "sh012345670000" :=
      ⟨'s', 'h', ['0', '1', '2', '3', '4', '5', '6', '7'], by decide +kernel, by simp, by simp⟩
    obtain ⟨first, second, hfirst, hsecond, hiff⟩ :=
      @showId_eq_iff "T7" (night "sh012345670000" 1) (night "sh012345670000" 2)
        (details "sh012345670000") (details "sh012345670000") none none (by decide +kernel)
        (by decide +kernel) inYears_first inYears_second
    refine ⟨first, second, hfirst, hsecond, ?_⟩
    intro h
    rcases hiff.mp h with ⟨hnamed, -⟩ | ⟨-, -, -, ticks, hticks, hticks'⟩
    · exact hnamed hunnamed
    · have hsame := hticks.trans hticks'.symm
      revert hsame
      decide +kernel
  · have hnamed (id : String) (h : isUnidentified id = false) : ¬Unidentified id := by
      simp [← isUnidentified_iff, h]
    obtain ⟨first, second, hfirst, hsecond, hiff⟩ :=
      @showId_eq_iff "T7" (night "EP012345670001" 1) (night "EP012345670002" 2)
        (details "EP012345670001") (details "EP012345670002") none none (by decide +kernel)
        (by decide +kernel) inYears_first inYears_second
    refine ⟨first, second, hfirst, hsecond, hiff.mpr (.inl ⟨?_, ?_, "EP01234567", ?_, ?_⟩)⟩
    · exact hnamed _ (by decide +kernel)
    · exact hnamed _ (by decide +kernel)
    · exact isRoot_iff.mpr (by decide +kernel)
    · exact isRoot_iff.mpr (by decide +kernel)

end ProgramGuide
