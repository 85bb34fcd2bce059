import ProgramGuide.Proofs.Lineup.Channel

/-!
# What is shown of a channel

A number is tested for being blank before its leading zeros are cut.  So one of zeros
alone passes the test and leaves nothing, and the channel shows no number, and no name
either unless its station has one.
-/

namespace ProgramGuide

/-! ## Numbers of zeros -/

/-- Zeros, and behind them blanks at most. -/
def AllZeros (given : String) : Prop :=
  ∃ n blanks, given.toList = List.replicate n '0' ++ blanks ∧
    ∀ c ∈ blanks, Text.isBlank c = true

theorem dropWhile_zeros {n : Nat} {cs : List Char} (h : cs.head? ≠ some '0') :
    (List.replicate n '0' ++ cs).dropWhile (· == '0') = cs := by
  have hzeros : ∀ c ∈ List.replicate n '0', (c == '0') = true := by
    intro c hc
    simp [List.eq_of_mem_replicate hc]
  rw [List.dropWhile_append_of_pos hzeros]
  cases cs with
  | nil => rfl
  | cons c cs =>
      have hc : ¬(c == '0') = true := by simpa using h
      exact List.dropWhile_cons_of_neg hc

theorem StripsZeros.blank_iff {given number : String} (h : StripsZeros given number) :
    Text.blank number = true ↔ AllZeros given := by
  obtain ⟨m, hgiven⟩ := h.zeros
  rw [Text.blank, List.all_eq_true]
  constructor
  · intro hblank
    exact ⟨m, number.toList, hgiven, hblank⟩
  · rintro ⟨n, blanks, hzeros, hblanks⟩
    have hhead : blanks.head? ≠ some '0' := by
      intro hzero
      exact absurd (hblanks '0' (List.mem_of_mem_head? hzero)) (by decide)
    have hnumber : number.toList = blanks := by
      rw [← dropWhile_zeros h.head, ← hgiven, hzeros, dropWhile_zeros hhead]
    rwa [hnumber]

/-- The point between major and minor number is neither a zero nor a blank. -/
theorem not_allZeros_pair (major minor : Int) :
    ¬AllZeros (Text.integer major ++ "." ++ Text.integer minor) := by
  rintro ⟨n, blanks, hzeros, hblanks⟩
  have hpoint : '.' ∈ List.replicate n '0' ++ blanks := by
    rw [← hzeros]
    simp
  rcases List.mem_append.mp hpoint with hmem | hmem
  · exact absurd (List.eq_of_mem_replicate hmem) (by decide)
  · exact absurd (hblanks '.' hmem) (by decide)

namespace ChannelSlot

/-- The slot gives a number that is not blank, but it is all zeros. -/
inductive Naught (slot : ChannelSlot) : Prop
  | logical {number} (h : slot.logicalNumber = some number)
      (hblank : Text.blank number = false) (hzeros : AllZeros number)
  | channel {number} (hlogical : Lacking slot.logicalNumber)
      (h : slot.channel = some number) (hblank : Text.blank number = false)
      (hzeros : AllZeros number)

variable {slot : ChannelSlot} {given number : String}

theorem eq_of_gives (h : slot.Gives given) (h' : slot.Gives number) : given = number := by
  have hnot {text : Option String} {s : String} (hlacking : Lacking text)
      (hs : text = some s) (hblank : Text.blank s = false) : False := by
    rw [hlacking s hs] at hblank
    cases hblank
  cases h with
  | logical hgiven hblank =>
      cases h' with
      | logical hnumber _ => exact Option.some.inj (hgiven.symm.trans hnumber)
      | channel hlacking _ _ => exact (hnot hlacking hgiven hblank).elim
      | broadcast hlacking _ => exact (hnot hlacking hgiven hblank).elim
  | channel hlacking hgiven hblank =>
      cases h' with
      | logical hnumber hother => exact (hnot hlacking hnumber hother).elim
      | channel _ hnumber _ => exact Option.some.inj (hgiven.symm.trans hnumber)
      | broadcast _ hother => exact (hnot hother hgiven hblank).elim
  | broadcast hlacking hlackingToo =>
      cases h' with
      | logical hnumber hother => exact (hnot hlacking hnumber hother).elim
      | channel _ hnumber hother => exact (hnot hlackingToo hnumber hother).elim
      | broadcast _ _ => rfl

theorem naught_iff (h : slot.Gives given) : slot.Naught ↔ AllZeros given := by
  constructor
  · rintro (⟨hnumber, hblank, hzeros⟩ | ⟨hlacking, hnumber, hblank, hzeros⟩)
    · rwa [eq_of_gives h (.logical hnumber hblank)]
    · rwa [eq_of_gives h (.channel hlacking hnumber hblank)]
  · intro hzeros
    cases h with
    | logical hgiven hblank => exact .logical hgiven hblank hzeros
    | channel hlacking hgiven hblank => exact .channel hlacking hgiven hblank hzeros
    | broadcast => exact absurd hzeros (not_allZeros_pair _ _)

end ChannelSlot

/-! ## Channels -/

theorem FirstStation.unique {stations : List Station} {id : String} {s t : Station}
    (h : FirstStation stations id s) (h' : FirstStation stations id t) : s = t := by
  have hfind {station : Station} (hfirst : FirstStation stations id station) :
      stations.find? (Text.sameIgnoringCase ·.stationId id) = some station := by
    obtain ⟨before, after, hstations, hid, hbefore⟩ := hfirst
    refine List.find?_eq_some_iff_append.mpr ⟨hid, before, after, hstations, ?_⟩
    simpa [Station.HasId] using hbefore
  exact Option.some.inj ((hfind h).symm.trans (hfind h'))

def Nameless (stations : List Station) (slot : ChannelSlot) : Prop :=
  ∀ station, FirstStation stations slot.stationId station → Lacking station.name

namespace Channel

variable {stations : List Station} {slot : ChannelSlot} {channel : Channel}

/-- There is something to show for its name and for its number. -/
structure Displayed (channel : Channel) : Prop where
  name : Text.blank channel.name = false
  number : Text.blank channel.number = false

theorem Joins.blank_number_iff (h : channel.Joins stations slot) :
    Text.blank channel.number = true ↔ slot.Naught := by
  obtain ⟨given, hgives, hstrips⟩ := h.number
  rw [hstrips.blank_iff, ChannelSlot.naught_iff hgives]

theorem Joins.blank_name_iff (h : channel.Joins stations slot) :
    Text.blank channel.name = true ↔ slot.Naught ∧ Nameless stations slot := by
  rw [← h.blank_number_iff]
  cases h.fills with
  | @station station hfirst _ hname _ _ =>
      cases hname with
      | own hown hblank =>
          refine iff_of_false (by simp [hblank]) ?_
          rintro ⟨-, hnameless⟩
          rw [hnameless station hfirst _ hown] at hblank
          cases hblank
      | number hlacking hnumber =>
          have hnameless : Nameless stations slot := by
            intro other hother
            rwa [hother.unique hfirst]
          rw [hnumber, and_iff_left hnameless]
  | alone hnone _ hnumber _ _ =>
      have hnameless : Nameless stations slot := by
        rintro station ⟨before, after, hstations, hid, -⟩
        exact absurd hid (hnone station (by simp [hstations]))
      rw [hnumber, and_iff_left hnameless]

theorem Joins.displayed_iff_not_naught (h : channel.Joins stations slot) :
    channel.Displayed ↔ ¬slot.Naught := by
  constructor
  · intro hdisplayed hnaught
    have hblank := hdisplayed.number
    rw [h.blank_number_iff.mpr hnaught] at hblank
    cases hblank
  · intro hnaught
    constructor <;> rw [← Bool.not_eq_true]
    · rw [h.blank_name_iff]
      exact fun hblank => hnaught hblank.1
    · rwa [h.blank_number_iff]

end Channel

/-- A channel shows no number when its slot gives nothing but zeros, and no name when its
station has none either.  So all channels can be shown when no slot gives such a number. -/
theorem Lineup.displayed_iff (lineup : Lineup) :
    List.Forall₂ (fun slot channel =>
        (Text.blank channel.number = true ↔ slot.Naught) ∧
        (Text.blank channel.name = true ↔ slot.Naught ∧ Nameless lineup.stations slot))
        lineup.slots lineup.channels ∧
      ((∀ channel ∈ lineup.channels, channel.Displayed) ↔
        ∀ slot ∈ lineup.slots, ¬slot.Naught) := by
  have hjoins (slot : ChannelSlot) := Channel.joins_ofSlot lineup slot
  unfold channels
  rw [List.forall₂_map_right_iff, List.forall₂_same, List.forall_mem_map]
  constructor
  · intro slot _
    exact ⟨(hjoins slot).blank_number_iff, (hjoins slot).blank_name_iff⟩
  · exact forall₂_congr fun slot _ => (hjoins slot).displayed_iff_not_naught

/-- One slot, and no station for it. -/
def Lineup.zeros : Lineup := ⟨[⟨"1", some "000", none, none, none⟩], []⟩

theorem Lineup.not_displayed_of_zeros :
    ¬∀ lineup : Lineup, ∀ channel ∈ lineup.channels, channel.Displayed := by
  intro h
  have hnumber := (h zeros ⟨"1", "", "", none, none⟩ (by decide +kernel)).number
  exact absurd hnumber (by decide)

end ProgramGuide
