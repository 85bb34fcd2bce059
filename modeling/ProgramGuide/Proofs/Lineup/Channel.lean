import Mathlib.Data.List.Forall2
import ProgramGuide.Lineup.Channel
import ProgramGuide.Proofs.Text.Search

/-!
# Channels joined with stations

A lineup has one channel for each slot of its map, in the order of the map.  A slot takes
up the first station with its id, in any case, and makes do by itself when there is none.
-/

namespace ProgramGuide

/-! ## Numbers -/

/-- One text is what another has behind all its leading zeros. -/
structure StripsZeros (given number : String) : Prop where
  zeros : ∃ n, given.toList = List.replicate n '0' ++ number.toList
  head : number.toList.head? ≠ some '0'

/-- Absent, or nothing but blanks. -/
def Lacking (text : Option String) : Prop := ∀ s, text = some s → Text.blank s = true

/-- The first number that a slot gives, of three. -/
inductive ChannelSlot.Gives (slot : ChannelSlot) : String → Prop
  | logical {number} (h : slot.logicalNumber = some number)
      (hblank : Text.blank number = false) : Gives slot number
  | channel {number} (hlogical : Lacking slot.logicalNumber)
      (h : slot.channel = some number) (hblank : Text.blank number = false) :
      Gives slot number
  | broadcast (hlogical : Lacking slot.logicalNumber) (hchannel : Lacking slot.channel) :
      Gives slot
        (Text.integer (slot.major.getD 0) ++ "." ++ Text.integer (slot.minor.getD 0))

theorem lacking_of_nonBlank? {text : Option String}
    (h : text.bind Text.nonBlank? = none) : Lacking text := by
  rintro s rfl
  simpa [Text.nonBlank?] using h

theorem of_nonBlank? {text : Option String} {s : String}
    (h : text.bind Text.nonBlank? = some s) : text = some s ∧ Text.blank s = false := by
  obtain ⟨t, rfl, ht⟩ := Option.bind_eq_some_iff.mp h
  obtain ⟨rfl, hblank⟩ := Text.nonBlank?_eq_some_iff.mp ht
  exact ⟨rfl, hblank⟩

theorem ChannelSlot.gives_givenNumber (slot : ChannelSlot) : slot.Gives slot.givenNumber := by
  unfold givenNumber
  split
  next hlogical =>
    obtain ⟨h, hblank⟩ := of_nonBlank? hlogical
    exact .logical h hblank
  next hlogical hchannel =>
    obtain ⟨h, hblank⟩ := of_nonBlank? hchannel
    exact .channel (lacking_of_nonBlank? hlogical) h hblank
  next hlogical hchannel =>
    exact .broadcast (lacking_of_nonBlank? hlogical) (lacking_of_nonBlank? hchannel)

theorem ChannelSlot.stripsZeros_number (slot : ChannelSlot) :
    StripsZeros slot.givenNumber slot.number := by
  obtain ⟨m, hgiven, hhead⟩ := Text.exists_dropped '0' slot.givenNumber.toList
  unfold number
  constructor
  · exact ⟨m, by rwa [String.toList_ofList]⟩
  · rwa [String.toList_ofList]

/-! ## Stations -/

def Station.HasId (station : Station) (id : String) : Prop :=
  Text.sameIgnoringCase station.stationId id = true

/-- A station with the id, and none with it before. -/
def FirstStation (stations : List Station) (id : String) (station : Station) : Prop :=
  ∃ before after, stations = before ++ station :: after ∧ station.HasId id ∧
    ∀ earlier ∈ before, ¬earlier.HasId id

theorem firstStation_of_station? {lineup : Lineup} {id : String} {station : Station}
    (h : lineup.station? id = some station) : FirstStation lineup.stations id station := by
  obtain ⟨hid, before, after, hstations, hbefore⟩ := List.find?_eq_some_iff_append.mp h
  refine ⟨before, after, hstations, hid, ?_⟩
  simpa [Station.HasId] using hbefore

theorem none_of_station? {lineup : Lineup} {id : String} (h : lineup.station? id = none) :
    ∀ station ∈ lineup.stations, ¬station.HasId id :=
  List.find?_eq_none.mp h

theorem station?_congr {lineup lineup' : Lineup} {id : String}
    (h : lineup'.stations.filter (Text.sameIgnoringCase ·.stationId id) =
      lineup.stations.filter (Text.sameIgnoringCase ·.stationId id)) :
    lineup'.station? id = lineup.station? id := by
  unfold Lineup.station?
  rw [← List.head?_filter, ← List.head?_filter, h]

/-! ## Channels -/

namespace Channel

/-- The name that there is, if it is not blank, else the number. -/
inductive Named (channel : Channel) (name : Option String) : Prop
  | own (h : name = some channel.name) (hblank : Text.blank channel.name = false)
  | number (h : Lacking name) (hname : channel.name = channel.number)

/-- What a slot has of its station, or has without one. -/
inductive Fills (stations : List Station) (slot : ChannelSlot) (channel : Channel) : Prop
  | station {station} (h : FirstStation stations slot.stationId station)
      (hid : channel.id = station.stationId) (hname : channel.Named station.name)
      (hcallSign : channel.callSign = station.callSign)
      (himage : channel.imageUrl = station.logo.join)
  | alone (h : ∀ station ∈ stations, ¬station.HasId slot.stationId)
      (hid : channel.id = slot.stationId) (hname : channel.name = channel.number)
      (hcallSign : channel.callSign = none) (himage : channel.imageUrl = none)

structure Joins (stations : List Station) (slot : ChannelSlot) (channel : Channel) :
    Prop where
  number : ∃ given, slot.Gives given ∧ StripsZeros given channel.number
  fills : channel.Fills stations slot

theorem named_getD (id number : String) (name callSign imageUrl : Option String) :
    Named ⟨id, number, (name.bind Text.nonBlank?).getD number, callSign, imageUrl⟩ name := by
  cases hname : name.bind Text.nonBlank? with
  | none => exact .number (lacking_of_nonBlank? hname) rfl
  | some own =>
      obtain ⟨h, hblank⟩ := of_nonBlank? hname
      exact .own h hblank

theorem joins_ofSlot (lineup : Lineup) (slot : ChannelSlot) :
    (ofSlot slot (lineup.station? slot.stationId)).Joins lineup.stations slot := by
  have hnumber : ∃ given, slot.Gives given ∧ StripsZeros given slot.number :=
    ⟨_, slot.gives_givenNumber, slot.stripsZeros_number⟩
  cases hstation : lineup.station? slot.stationId with
  | none => exact ⟨hnumber, .alone (none_of_station? hstation) rfl rfl rfl rfl⟩
  | some station =>
      have hfirst := firstStation_of_station? hstation
      refine ⟨hnumber, .station hfirst rfl (named_getD ..) rfl ?_⟩
      cases hlogo : station.logo <;> simp [ofSlot, hlogo]

end Channel

/-- Nothing of a map is dropped or moved: every slot has its channel, with the number it
gives and what the first station of its id adds.  The order of the stations matters among
those of one id only. -/
theorem Lineup.channels_join (lineup : Lineup) :
    List.Forall₂ (fun slot channel => channel.Joins lineup.stations slot) lineup.slots
        lineup.channels ∧
      ∀ stations : List Station,
        (∀ id, stations.filter (Text.sameIgnoringCase ·.stationId id) =
          lineup.stations.filter (Text.sameIgnoringCase ·.stationId id)) →
        (Lineup.mk lineup.slots stations).channels = lineup.channels := by
  constructor
  · unfold channels
    rw [List.forall₂_map_right_iff, List.forall₂_same]
    exact fun slot _ => Channel.joins_ofSlot lineup slot
  · intro stations hsame
    refine List.map_congr_left fun slot _ => ?_
    rw [station?_congr (hsame slot.stationId)]

namespace Antenna

def early : Station := ⟨"ABC1", some "Local", some "WABC", some (some "logo.png")⟩

def late : Station := ⟨"Abc1", some "Late", none, none⟩

def other : Station := ⟨"x3", none, none, none⟩

def lineup : Lineup where
  slots :=
    [⟨"abc1", some "002", some " ", none, none⟩, ⟨"x2", none, none, none, some 3⟩,
     ⟨"abc1", none, some "000", none, none⟩]
  stations := [early, other, late]

theorem filter_moved (id : String) :
    [other, early, late].filter (Text.sameIgnoringCase ·.stationId id) =
      lineup.stations.filter (Text.sameIgnoringCase ·.stationId id) := by
  cases hearly : Text.sameIgnoringCase early.stationId id with
  | false => simp [lineup, List.filter_cons, hearly]
  | true =>
      have hother : Text.sameIgnoringCase other.stationId id = false := by
        unfold Text.sameIgnoringCase at hearly ⊢
        rw [← beq_iff_eq.mp hearly]
        decide +kernel
      simp [lineup, List.filter_cons, hearly, hother]

end Antenna

open Antenna in
theorem Lineup.channels_join_antenna :
    (∀ id, [other, early, late].filter (Text.sameIgnoringCase ·.stationId id) =
        lineup.stations.filter (Text.sameIgnoringCase ·.stationId id)) ∧
      (Lineup.mk lineup.slots [other, early, late]).channels = lineup.channels :=
  ⟨filter_moved, lineup.channels_join.2 _ filter_moved⟩

open Antenna in
example : lineup.channels.map (fun channel => (channel.number, channel.name)) =
    [("2", "Local"), (".3", ".3"), ("", "Local")] := by
  decide +kernel

end ProgramGuide
