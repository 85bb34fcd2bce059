import Mathlib.Algebra.Group.Int.Defs
import ProgramGuide.Proofs.Calendar.Timestamp
import ProgramGuide.Proofs.Program.Merge
import ProgramGuide.Proofs.Text.Bytes

/-!
# Dates of first airings

Details give a date and may go on with anything behind it.  What follows the date keeps
the whole text from being read as one, and the first ten bytes are the date alone, so it
is found whatever the tail is.  Its year is that of the production, unless the details
name the year of a movie.
-/

namespace ProgramGuide

section Written

variable {date : Date} (h : 0 ≤ date.year ∧ date.year ≤ 9999)

include h

theorem Date.not_blank_of_mem_text {c : Char} (hc : c ∈ date.text.toList) :
    Text.isBlank c = false := by
  rw [← Bool.not_eq_true]
  intro hblank
  cases Timestamp.isDigit_of_mem_text h hc with
  | inl hdigit =>
      rw [Text.isDigit_of_isBlank hblank] at hdigit
      cases hdigit
  | inr hdash =>
      subst hdash
      exact absurd hblank (by decide)

theorem Date.takeBytes?_text (rest : List Char) :
    Text.takeBytes? 10 (date.text.toList ++ rest) = some date.text.toList := by
  refine Text.takeBytes?_eq_some_iff.mpr ⟨List.prefix_append _ rest, ?_⟩
  rw [Text.byteLength_of_ascii, Timestamp.length_text h]
  intro c hc
  cases Timestamp.isDigit_of_mem_text h hc with
  | inl hdigit =>
      have hlast := (Char.isDigit_iff_toNat.mp hdigit).2
      have hnine : '9'.toNat = 57 := rfl
      omega
  | inr hdash => simp [hdash]

end Written

namespace ProgramDetails

variable {details : ProgramDetails} {date : Date}

/-- The text given for the first airing is a date, with blanks in front and a tail. -/
def FirstAiredOn (details : ProgramDetails) (date : Date) : Prop :=
  ∃ given blanks tail, details.firstAired = some given ∧
    given.toList = blanks ++ (date.text.toList ++ tail) ∧ ∀ c ∈ blanks, Text.isBlank c = true

/-- The details name the year of a movie, as a numeral of a signed word of 32 bits. -/
def NamesYear (details : ProgramDetails) (year : Int) : Prop :=
  ∃ movie given, details.movie = some movie ∧ movie.year = some given ∧
    Text.SpellsInteger (Text.trim given).toList year ∧ -2 ^ 31 ≤ year ∧ year < 2 ^ 31

theorem airDate_of_firstAiredOn (h : details.FirstAiredOn date)
    (hyear : 0 ≤ date.year ∧ date.year ≤ 9999) : details.airDate = some date := by
  obtain ⟨given, blanks, tail, hgiven, htext, hblanks⟩ := h
  have hne : date.text.toList ≠ [] := by
    rw [← List.length_pos_iff, Timestamp.length_text hyear]
    decide
  have htrimmed : Text.trimChars given.toList = date.text.toList ++ Text.trimEnd tail := by
    rw [htext, Text.trimChars_append hblanks hne fun _ => Date.not_blank_of_mem_text hyear]
  have halone : Date.read? date.text.toList = some date := by
    simpa using Date.read?_text hyear []
  simp only [airDate, hgiven, htrimmed, Date.read?_text hyear]
  by_cases htail : Text.trimEnd tail = []
  · simp [htail]
  · simp [htail, Date.takeBytes?_text hyear, halone]

theorem movieYear_eq_some_iff {year : Int} :
    details.movieYear = some year ↔ details.NamesYear year := by
  have hword : Int.pow 2 (32 - 1) = 2 ^ 31 := rfl
  simp only [movieYear, NamesYear, Option.bind_eq_some_iff, Text.signed?_eq_some_iff, hword,
    Text.trim, String.toList_ofList]
  constructor
  · rintro ⟨given, ⟨movie, hmovie, hgiven⟩, hspells⟩
    exact ⟨movie, given, hmovie, hgiven, hspells⟩
  · rintro ⟨movie, given, hmovie, hgiven, hspells⟩
    exact ⟨given, ⟨movie, hmovie, hgiven⟩, hspells⟩

theorem productionYear_of_namesYear {year : Int} (h : details.NamesYear year) :
    details.productionYear = some year := by
  simp [productionYear, movieYear_eq_some_iff.mpr h]

theorem productionYear_of_nameless (h : ∀ year, ¬details.NamesYear year) :
    details.productionYear = details.airDate.map Date.year := by
  have hnone : details.movieYear = none := by
    rw [Option.eq_none_iff_forall_ne_some]
    exact fun year hyear => h year (movieYear_eq_some_iff.mp hyear)
  simp [productionYear, hnone]

end ProgramDetails

namespace ProgramRecord

/-- The record shows the date, and its year unless a movie has one of its own. -/
structure Dated (details : ProgramDetails) (date : Date) (record : ProgramRecord) : Prop where
  firstAired : record.firstAired = some date
  named : ∀ year, details.NamesYear year → record.productionYear = some year
  nameless : (∀ year, ¬details.NamesYear year) → record.productionYear = some date.year

/-- A date of a year from 0 to 9999 is found whatever follows it, and its year is that of
the production unless there is a movie with a year of its own. -/
theorem dated_merge {details : ProgramDetails} {date : Date} (h : details.FirstAiredOn date)
    (hyear : 0 ≤ date.year ∧ date.year ≤ 9999) (channel : String) (airing : Airing)
    (images : Option ProgramImages) :
    (∃ record, merge? channel airing details images = some record ∧
      Dated details date record) ∨
    merge? channel airing details images = none ∧ ¬airing.start.Spanned := by
  have hdate := ProgramDetails.airDate_of_firstAiredOn h hyear
  apply merge?_of_identity
  intro identity _
  refine ⟨hdate, fun year => ProgramDetails.productionYear_of_namesYear, ?_⟩
  intro hnameless
  have hproduction := ProgramDetails.productionYear_of_nameless hnameless
  rwa [hdate] at hproduction

namespace Premiere

def details (year : String) : ProgramDetails :=
  ⟨"MV01", [], none, none, none, [], none, some "\u3000 2024-02-2917:00é",
    some ⟨some year, none⟩, [], none, false⟩

def airing : Airing := ⟨"MV01", ⟨0, 0⟩, 0, none, none, none, none, none, false, none⟩

def leapDay : Date := ⟨19782⟩

theorem firstAiredOn (year : String) : (details year).FirstAiredOn leapDay :=
  ⟨_, ['\u3000', ' '], "17:00é".toList, rfl, by decide +kernel, List.all_eq_true.mp rfl⟩

/-- A sign and zeros in front belong to a numeral. -/
theorem namesYear : (details " +01999 ").NamesYear 1999 := by
  have htrimmed : (Text.trim " +01999 ").toList = '+' :: "01999".toList := by decide +kernel
  refine ⟨_, _, rfl, rfl, ?_, by decide, by decide⟩
  rw [htrimmed]
  exact .plus (by decide) (List.all_eq_true.mp rfl)

/-- The first number beyond a signed word of 32 bits. -/
theorem not_namesYear (year : Int) : ¬(details "2147483648").NamesYear year := by
  have hnone : (details "2147483648").movieYear = none := by decide +kernel
  rw [← ProgramDetails.movieYear_eq_some_iff, hnone]
  simp

end Premiere

open Premiere in
theorem dated_merge_premiere :
    (details " +01999 ").FirstAiredOn leapDay ∧ (details " +01999 ").NamesYear 1999 ∧
    (∃ record, merge? "1" airing (details " +01999 ") none = some record ∧
      record.firstAired = some leapDay ∧ record.productionYear = some 1999) ∧
    (∀ year, ¬(details "2147483648").NamesYear year) ∧
    ∃ record, merge? "1" airing (details "2147483648") none = some record ∧
      record.firstAired = some leapDay ∧ record.productionYear = some 2024 := by
  have hyear : 0 ≤ leapDay.year ∧ leapDay.year ≤ 9999 := by decide +kernel
  have hleapYear : leapDay.year = 2024 := by decide +kernel
  have hspan : airing.start.Spanned := ⟨by decide, by decide⟩
  refine ⟨firstAiredOn _, namesYear, ?_, not_namesYear, ?_⟩
  · obtain ⟨record, hmerge, hdated⟩ | ⟨-, hfar⟩ :=
      dated_merge (firstAiredOn " +01999 ") hyear "1" airing none
    · exact ⟨record, hmerge, hdated.firstAired, hdated.named 1999 namesYear⟩
    · exact absurd hspan hfar
  · obtain ⟨record, hmerge, hdated⟩ | ⟨-, hfar⟩ :=
      dated_merge (firstAiredOn "2147483648") hyear "1" airing none
    · refine ⟨record, hmerge, hdated.firstAired, ?_⟩
      rw [hdated.nameless not_namesYear, hleapYear]
    · exact absurd hspan hfar

end ProgramRecord

end ProgramGuide
