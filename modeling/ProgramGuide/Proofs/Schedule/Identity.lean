import ProgramGuide.Proofs.Program.Join
import ProgramGuide.Proofs.Text.Numeral

/-!
# Identities of airings

An identity puts program, start and channel one behind the other.  No letter stands in
a numeral, so the last `T` before the channel ends the program and the first `C` behind
it ends the start: airings with one identity agree in all three.  An airing without ticks
has no identity to share.
-/

namespace ProgramGuide

section Marks

variable {α : Type} {mark : α} {front front' back back' : List α}

private theorem eq_of_first_mark (h : mark ∉ front) (h' : mark ∉ front')
    (heq : front ++ mark :: back = front' ++ mark :: back') :
    front = front' ∧ back = back' := by
  induction front generalizing front' with
  | nil =>
      cases front' with
      | nil => simpa using heq
      | cons item front' =>
          rw [List.nil_append, List.cons_append, List.cons.injEq] at heq
          exact absurd (heq.1 ▸ List.mem_cons_self) h'
  | cons item front ih =>
      cases front' with
      | nil =>
          rw [List.nil_append, List.cons_append, List.cons.injEq] at heq
          exact absurd (heq.1 ▸ List.mem_cons_self) h
      | cons item' front' =>
          rw [List.mem_cons, not_or] at h h'
          rw [List.cons_append, List.cons_append, List.cons.injEq] at heq
          obtain ⟨hfront, hback⟩ := ih h.2 h'.2 heq.2
          exact ⟨by rw [heq.1, hfront], hback⟩

private theorem eq_of_last_mark (h : mark ∉ back) (h' : mark ∉ back')
    (heq : front ++ mark :: back = front' ++ mark :: back') :
    front = front' ∧ back = back' := by
  have hreverse := congrArg List.reverse heq
  simp only [List.reverse_append, List.reverse_cons, List.append_assoc,
    List.singleton_append] at hreverse
  obtain ⟨hback, hfront⟩ :=
    eq_of_first_mark (mt List.mem_reverse.mp h) (mt List.mem_reverse.mp h') hreverse
  exact ⟨List.reverse_injective hfront, List.reverse_injective hback⟩

end Marks

namespace Airing

variable {a b : Airing} {ticks ticks' : Int} {channel channel' : String}

theorem toList_identityAt (a : Airing) (ticks : Int) (channel : String) :
    (a.identityAt ticks channel).toList = a.programId.toList ++
      'T' :: ((Text.integer ticks).toList ++ 'C' :: channel.toList) := by
  simp [identityAt]

private theorem letter_not_mem_integer {letter : Char} (hsign : letter ≠ '-')
    (hdigit : letter.isDigit = false) (n : Int) : letter ∉ (Text.integer n).toList := by
  intro h
  cases Text.isDigit_of_mem_integer h with
  | inl heq => exact hsign heq
  | inr heq => simp [hdigit] at heq

private theorem numeral_not_mem (n : Int) :
    'T' ∉ (Text.integer n).toList ∧ 'C' ∉ (Text.integer n).toList :=
  ⟨letter_not_mem_integer (by decide) (by decide) n,
    letter_not_mem_integer (by decide) (by decide) n⟩

/-- With the channel known, a `T` in it does no harm: it is cut off first. -/
theorem identityAt_eq_iff : a.identityAt ticks channel = b.identityAt ticks' channel ↔
    a.programId = b.programId ∧ ticks = ticks' := by
  constructor
  · intro h
    have hlist := congrArg String.toList h
    simp only [toList_identityAt, ← List.cons_append, ← List.append_assoc,
      List.append_cancel_right_eq] at hlist
    obtain ⟨hprogram, hstart⟩ :=
      eq_of_last_mark (numeral_not_mem _).1 (numeral_not_mem _).1 hlist
    exact ⟨String.toList_injective hprogram,
      Text.integer_injective (String.toList_injective hstart)⟩
  · rintro ⟨hprogram, hstart⟩
    simp [identityAt, hprogram, hstart]

theorem eq_of_identityAt_eq (hchannel : 'T' ∉ channel.toList)
    (hchannel' : 'T' ∉ channel'.toList)
    (h : a.identityAt ticks channel = b.identityAt ticks' channel') :
    a.programId = b.programId ∧ ticks = ticks' ∧ channel = channel' := by
  have hlist := congrArg String.toList h
  rw [toList_identityAt, toList_identityAt] at hlist
  have hlast (n : Int) {channel : String} (hchannel : 'T' ∉ channel.toList) :
      'T' ∉ (Text.integer n).toList ++ 'C' :: channel.toList := by
    simp [(numeral_not_mem n).1, hchannel]
  obtain ⟨hprogram, hrest⟩ := eq_of_last_mark (hlast _ hchannel) (hlast _ hchannel') hlist
  obtain ⟨hstart, hend⟩ :=
    eq_of_first_mark (numeral_not_mem _).2 (numeral_not_mem _).2 hrest
  exact ⟨String.toList_injective hprogram,
    Text.integer_injective (String.toList_injective hstart), String.toList_injective hend⟩

/-- The same program, and a start at the same tick. -/
structure Coincides (a b : Airing) : Prop where
  programId : a.programId = b.programId
  ticks : ∃ ticks, a.start.ticks? = some ticks ∧ b.start.ticks? = some ticks

variable {key key' : String}

theorem identity_eq_iff (h : a.identity? channel = some key)
    (h' : b.identity? channel = some key') : key = key' ↔ a.Coincides b := by
  obtain ⟨ticks, hticks, rfl⟩ := Option.map_eq_some_iff.mp h
  obtain ⟨ticks', hticks', rfl⟩ := Option.map_eq_some_iff.mp h'
  rw [identityAt_eq_iff]
  constructor
  · rintro ⟨hprogram, rfl⟩
    exact ⟨hprogram, ticks, hticks, hticks'⟩
  · rintro ⟨hprogram, same, hsame, hsame'⟩
    rw [hticks] at hsame
    rw [hticks'] at hsame'
    exact ⟨hprogram, Option.some.inj (hsame.trans hsame'.symm)⟩

theorem coincides_of_other_channel (hchannel : 'T' ∉ channel.toList)
    (hchannel' : 'T' ∉ channel'.toList) (h : a.identity? channel = some key)
    (h' : b.identity? channel' = some key) : a.Coincides b ∧ channel = channel' := by
  obtain ⟨ticks, hticks, hkey⟩ := Option.map_eq_some_iff.mp h
  obtain ⟨ticks', hticks', hkey'⟩ := Option.map_eq_some_iff.mp h'
  obtain ⟨hprogram, rfl, hsame⟩ :=
    eq_of_identityAt_eq hchannel hchannel' (hkey.trans hkey'.symm)
  exact ⟨⟨hprogram, ticks, hticks, hticks'⟩, hsame⟩

end Airing

namespace ProgramRecord

theorem ComesFrom.identity? {channel : String} {airing : Airing} {record : ProgramRecord}
    (h : ComesFrom channel airing record) : airing.identity? channel = some record.id := by
  obtain ⟨found, images, hmerge⟩ := h
  obtain ⟨identity, hidentity, rfl⟩ := merge?_eq_some_iff.mp hmerge
  exact hidentity

end ProgramRecord

open ProgramRecord in
/-- No two airings share an identity unless program and start tick are the same: not on
one channel, not on channels without a `T`, and not among the records of a schedule. -/
theorem identity_separates :
    (∀ (a b : Airing) (channel channel' key : String),
      channel = channel' ∨ 'T' ∉ channel.toList ∧ 'T' ∉ channel'.toList →
      a.identity? channel = some key → b.identity? channel' = some key →
      a.Coincides b ∧ channel = channel') ∧
    ∀ (channel base : String) (days : List ScheduleDay) (details : List ProgramDetails)
      (artwork : ArtworkIndex) (records : List ProgramRecord),
      mergeAll channel days details artwork base = .ok records →
      ∀ (i j : Nat) (first second : ProgramRecord), records[i]? = some first →
        records[j]? = some second → first.id = second.id →
        ∃ a b, (airingsOf days)[i]? = some a ∧ (airingsOf days)[j]? = some b ∧
          ComesFrom channel a first ∧ ComesFrom channel b second ∧ a.Coincides b := by
  constructor
  · rintro a b channel channel' key (rfl | ⟨hchannel, hchannel'⟩) ha hb
    · exact ⟨(Airing.identity_eq_iff ha hb).mp rfl, rfl⟩
    · exact Airing.coincides_of_other_channel hchannel hchannel' ha hb
  · intro channel base days details artwork records hrecords i j first second hfirst hsecond h
    obtain ⟨a, ha, hfrom⟩ := comesFrom_of_mergeAll hrecords hfirst
    obtain ⟨b, hb, hfrom'⟩ := comesFrom_of_mergeAll hrecords hsecond
    exact ⟨a, b, ha, hb, hfrom, hfrom',
      (Airing.identity_eq_iff hfrom.identity? hfrom'.identity?).mp h⟩

/-! ## A film listed twice -/

namespace Duplicate

def film (duration : Int) : Airing :=
  ⟨"MVT12C3", ⟨0, 0⟩, duration, none, none, none, none, none, false, none⟩

def days : List ScheduleDay := [⟨"T7", [film 60]⟩, ⟨"T7", [film 90]⟩]

def details : ProgramDetails :=
  ⟨"MVT12C3", [], none, none, none, [], none, none, none, [], none, false⟩

def identity : String := "MVT12C3T621355968000000000CT7"

def record (duration : Int) : ProgramRecord :=
  .ofIdentity identity "T7" (film duration) details none

end Duplicate

open Duplicate ProgramRecord in
theorem identity_separates_duplicate :
    (film 60).Coincides (film 90) ∧
    ∃ a b, (airingsOf days)[0]? = some a ∧ (airingsOf days)[1]? = some b ∧
      ComesFrom "T7" a (record 60) ∧ ComesFrom "T7" b (record 90) ∧ a.Coincides b :=
  ⟨(identity_separates.1 (film 60) (film 90) "T7" "T7" identity (.inl rfl)
      (by decide +kernel) (by decide +kernel)).1,
    identity_separates.2 "T7" "" days [details] [] [record 60, record 90] (by decide +kernel)
      0 1 (record 60) (record 90) rfl rfl rfl⟩

end ProgramGuide
