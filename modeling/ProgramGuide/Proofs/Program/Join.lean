import Mathlib.Data.List.Forall2
import ProgramGuide.Proofs.Artwork.Index
import ProgramGuide.Proofs.Program.Merge

/-!
# Schedules joined with details and artwork

A merged schedule has one record for each airing, in the order of the schedule, with the
last details of its program and the artwork of its root.  If there are no details for
some airing, or no ticks for its start, the first such airing is all that comes of it.
-/

namespace ProgramGuide

section Traversal

variable {α β ε : Type} {f g : α → Except ε β} {items : List α}

private theorem mapM_cons_eq_ok_iff {item : α} {results : List β} :
    (item :: items).mapM f = .ok results ↔
      ∃ first rest, f item = .ok first ∧ items.mapM f = .ok rest ∧ results = first :: rest := by
  rw [List.mapM_cons]
  cases f item with
  | error failure => simp [bind, Except.bind]
  | ok first => cases items.mapM f <;> simp [bind, Except.bind, pure, Except.pure, eq_comm]

private theorem mapM_cons_eq_error_iff {item : α} {failure : ε} :
    (item :: items).mapM f = .error failure ↔
      f item = .error failure ∨
        (∃ first, f item = .ok first) ∧ items.mapM f = .error failure := by
  rw [List.mapM_cons]
  cases f item with
  | error other => simp [bind, Except.bind]
  | ok first => cases items.mapM f <;> simp [bind, Except.bind, pure, Except.pure]

private theorem mapM_eq_ok_iff {results : List β} :
    items.mapM f = .ok results ↔
      List.Forall₂ (fun item result => f item = .ok result) items results := by
  induction items generalizing results with
  | nil => simp [pure, Except.pure, eq_comm]
  | cons item items ih =>
      rw [mapM_cons_eq_ok_iff, List.forall₂_cons_left_iff]
      simp only [ih]

private theorem first_error_of_mapM {failure : ε} (h : items.mapM f = .error failure) :
    ∃ before item after, items = before ++ item :: after ∧
      (∀ earlier ∈ before, ∃ result, f earlier = .ok result) ∧
      f item = .error failure := by
  induction items with
  | nil => cases h
  | cons item items ih =>
      obtain hfirst | ⟨hfirst, hrest⟩ := mapM_cons_eq_error_iff.mp h
      · exact ⟨[], item, items, rfl, by simp, hfirst⟩
      · obtain ⟨before, other, after, rfl, hbefore, herror⟩ := ih hrest
        exact ⟨item :: before, other, after, rfl,
          List.forall_mem_cons.mpr ⟨hfirst, hbefore⟩, herror⟩

private theorem mapM_congr_mem (h : ∀ item ∈ items, f item = g item) :
    items.mapM f = items.mapM g := by
  induction items with
  | nil => rfl
  | cons item items ih =>
      rw [List.forall_mem_cons] at h
      rw [List.mapM_cons, List.mapM_cons, h.1, ih h.2]

end Traversal

/-! ## Details -/

/-- Details with the id, and no others with it after them. -/
def LastDetails (details : List ProgramDetails) (id : String) (found : ProgramDetails) :
    Prop :=
  ∃ before after, details = before ++ found :: after ∧ found.programId = id ∧
    ∀ later ∈ after, later.programId ≠ id

def Detailed (details : List ProgramDetails) (airing : Airing) : Prop :=
  ∃ found ∈ details, found.programId = airing.programId

instance (details : List ProgramDetails) (airing : Airing) :
    Decidable (Detailed details airing) :=
  inferInstanceAs (Decidable (∃ found ∈ details, found.programId = airing.programId))

/-- Nothing keeps the airing from a record. -/
structure Joinable (details : List ProgramDetails) (airing : Airing) : Prop where
  detailed : Detailed details airing
  spanned : airing.start.Spanned

instance (details : List ProgramDetails) (airing : Airing) :
    Decidable (Joinable details airing) :=
  decidable_of_iff (Detailed details airing ∧ airing.start.Spanned)
    ⟨fun h => ⟨h.1, h.2⟩, fun h => ⟨h.detailed, h.spanned⟩⟩

def isReferenced (days : List ScheduleDay) (details : ProgramDetails) : Bool :=
  (airingsOf days).any (·.programId == details.programId)

section Details

variable {details details' : List ProgramDetails} {id : String} {found : ProgramDetails}

theorem lastDetails_of_detailsOf? (h : detailsOf? details id = some found) :
    LastDetails details id found := by
  obtain ⟨hid, after, before, hreverse, hafter⟩ := List.find?_eq_some_iff_append.mp h
  refine ⟨before.reverse, after.reverse, ?_, by simpa using hid, by simpa using hafter⟩
  have hdetails := congrArg List.reverse hreverse
  simpa using hdetails

theorem detailsOf?_eq_none_iff {airing : Airing} :
    detailsOf? details airing.programId = none ↔ ¬Detailed details airing := by
  simp [detailsOf?, Detailed]

theorem detailed_of_detailsOf? {airing : Airing}
    (h : detailsOf? details airing.programId = some found) : Detailed details airing := by
  by_contra hnone
  rw [detailsOf?_eq_none_iff.mpr hnone] at h
  cases h

theorem detailsOf?_filter {keep : ProgramDetails → Bool}
    (hkeep : ∀ found, found.programId = id → keep found = true) :
    detailsOf? (details.filter keep) id = detailsOf? details id := by
  unfold detailsOf?
  rw [← List.filter_reverse, List.find?_filter]
  congr 1
  funext found
  by_cases hid : found.programId = id
  · simp [hid, hkeep found hid]
  · simp [hid]

end Details

/-! ## Records -/

/-- The pictures chosen from the candidates of a root, if it is one of the roots. -/
inductive Pictured (artwork : ArtworkIndex) (base root : String) :
    Option ProgramImages → Prop
  | absent (h : ∀ entry ∈ artwork, entry.1 ≠ root) : Pictured artwork base root none
  | present {candidates} (h : (root, candidates) ∈ artwork) :
      Pictured artwork base root (some (ProgramImages.choose base candidates))

namespace ProgramRecord

variable {channel base : String} {days : List ScheduleDay}
variable {details details' : List ProgramDetails} {artwork artwork' : ArtworkIndex}

/-- The record merges the airing with its details and its pictures. -/
def Joins (channel : String) (details : List ProgramDetails) (artwork : ArtworkIndex)
    (base : String) (airing : Airing) (record : ProgramRecord) : Prop :=
  ∃ found images, LastDetails details airing.programId found ∧
    Pictured artwork base (ProgramId.root airing.programId) images ∧
    merge? channel airing found images = some record

theorem mergeAll_eq_ok_iff {records : List ProgramRecord} :
    mergeAll channel days details artwork base = .ok records ↔
      List.Forall₂
        (fun airing record => ofAiring channel details artwork base airing = .ok record)
        (airingsOf days) records :=
  mapM_eq_ok_iff

theorem ofAiring_eq_ok_iff {airing : Airing} {record : ProgramRecord} :
    ofAiring channel details artwork base airing = .ok record ↔
      ∃ found, detailsOf? details airing.programId = some found ∧
        merge? channel airing found
          ((artwork.get? (ProgramId.root airing.programId)).map (ProgramImages.choose base)) =
            some record := by
  unfold ofAiring
  cases detailsOf? details airing.programId with
  | none => simp
  | some found =>
      simp only [Option.some.injEq, exists_eq_left']
      split
      next hmerge => simp [hmerge]
      next hnone => simp [hnone]

theorem joins_of_ofAiring (hkeys : (artwork.map Prod.fst).Nodup) {airing : Airing}
    {record : ProgramRecord}
    (h : ofAiring channel details artwork base airing = .ok record) :
    Joins channel details artwork base airing record := by
  obtain ⟨found, hfound, hmerge⟩ := ofAiring_eq_ok_iff.mp h
  refine ⟨found, _, lastDetails_of_detailsOf? hfound, ?_, hmerge⟩
  cases hroot : artwork.get? (ProgramId.root airing.programId) with
  | none => exact .absent (ArtworkIndex.get?_eq_none_iff.mp hroot)
  | some candidates => exact .present ((ArtworkIndex.get?_eq_some_iff hkeys).mp hroot)

theorem joinable_of_ofAiring {airing : Airing} {record : ProgramRecord}
    (h : ofAiring channel details artwork base airing = .ok record) :
    Joinable details airing := by
  obtain ⟨found, hfound, hmerge⟩ := ofAiring_eq_ok_iff.mp h
  refine ⟨detailed_of_detailsOf? hfound, ?_⟩
  by_contra hspan
  rw [merge?_eq_none_iff.mpr hspan] at hmerge
  cases hmerge

/-- Why there is no record of an airing. -/
inductive Hindered (details : List ProgramDetails) (airing : Airing) : Failure → Prop
  | missing (h : ¬Detailed details airing) :
      Hindered details airing (.missingDetails airing.programId)
  | overflow (h : Detailed details airing) (hspan : ¬airing.start.Spanned) :
      Hindered details airing .overflow

theorem Hindered.not_joinable {airing : Airing} {failure : Failure}
    (h : Hindered details airing failure) : ¬Joinable details airing := by
  intro hjoinable
  cases h with
  | missing h => exact h hjoinable.detailed
  | overflow _ hspan => exact hspan hjoinable.spanned

theorem hindered_of_ofAiring {airing : Airing} {failure : Failure}
    (h : ofAiring channel details artwork base airing = .error failure) :
    Hindered details airing failure := by
  unfold ofAiring at h
  cases hfound : detailsOf? details airing.programId with
  | none =>
      rw [hfound] at h
      cases h
      exact .missing (detailsOf?_eq_none_iff.mp hfound)
  | some found =>
      simp only [hfound] at h
      split at h
      next => cases h
      next hmerge =>
        cases h
        exact .overflow (detailed_of_detailsOf? hfound) (merge?_eq_none_iff.mp hmerge)

/-- The first airing that is hindered decides how a merge fails. -/
theorem hindered_of_mergeAll {failure : Failure}
    (h : mergeAll channel days details artwork base = .error failure) :
    ∃ before airing after, airingsOf days = before ++ airing :: after ∧
      (∀ earlier ∈ before, Joinable details earlier) ∧ Hindered details airing failure := by
  obtain ⟨before, airing, after, hairings, hbefore, hfirst⟩ := first_error_of_mapM h
  refine ⟨before, airing, after, hairings, ?_, hindered_of_ofAiring hfirst⟩
  intro earlier hearlier
  obtain ⟨record, hrecord⟩ := hbefore earlier hearlier
  exact joinable_of_ofAiring hrecord

theorem joinable_of_mergeAll {records : List ProgramRecord}
    (h : mergeAll channel days details artwork base = .ok records) :
    ∀ airing ∈ airingsOf days, Joinable details airing := by
  intro airing hairing
  have hrecords := mergeAll_eq_ok_iff.mp h
  obtain ⟨i, hi, rfl⟩ := List.getElem_of_mem hairing
  have hlength := hrecords.length_eq
  exact joinable_of_ofAiring (hrecords.get hi (by omega))

theorem mergeAll_of_joinable (h : ∀ airing ∈ airingsOf days, Joinable details airing) :
    ∃ records, mergeAll channel days details artwork base = .ok records := by
  cases hmerge : mergeAll channel days details artwork base with
  | ok records => exact ⟨records, rfl⟩
  | error failure =>
      obtain ⟨before, airing, after, hairings, -, hhindered⟩ := hindered_of_mergeAll hmerge
      exact absurd (h airing (by simp [hairings])) hhindered.not_joinable

/-- The record is one of the airing, whatever its details and pictures. -/
def ComesFrom (channel : String) (airing : Airing) (record : ProgramRecord) : Prop :=
  ∃ found images, merge? channel airing found images = some record

theorem comesFrom_of_mergeAll {records : List ProgramRecord}
    (h : mergeAll channel days details artwork base = .ok records) {i : Nat}
    {record : ProgramRecord} (hrecord : records[i]? = some record) :
    ∃ airing, (airingsOf days)[i]? = some airing ∧ ComesFrom channel airing record := by
  have hrecords := mergeAll_eq_ok_iff.mp h
  obtain ⟨hi, rfl⟩ := List.getElem?_eq_some_iff.mp hrecord
  have hlength := hrecords.length_eq
  have hairing : i < (airingsOf days).length := by omega
  obtain ⟨found, -, hmerge⟩ := ofAiring_eq_ok_iff.mp (hrecords.get hairing hi)
  exact ⟨_, List.getElem?_eq_getElem hairing, found, _, hmerge⟩

theorem mergeAll_congr_details
    (h : details'.filter (isReferenced days) = details.filter (isReferenced days)) :
    mergeAll channel days details' artwork base =
      mergeAll channel days details artwork base := by
  apply mapM_congr_mem
  intro airing hairing
  have hkeep (found : ProgramDetails) (hid : found.programId = airing.programId) :
      isReferenced days found = true :=
    List.any_eq_true.mpr ⟨airing, hairing, by simp [hid]⟩
  have hdetails : detailsOf? details' airing.programId =
      detailsOf? details airing.programId := by
    rw [← detailsOf?_filter hkeep, h, detailsOf?_filter hkeep]
  unfold ofAiring
  rw [hdetails]

/-- A merge is a join without losses: either every airing is joinable and gets its record,
in order, or the first that is not says why and there is no record: it has no details and is
named, or it has them and its ticks do not fit.  The order of the artwork and details of
other programs are of no account. -/
theorem mergeAll_joins (hkeys : (artwork.map Prod.fst).Nodup)
    (hartwork : artwork.Perm artwork')
    (hdetails : details'.filter (isReferenced days) = details.filter (isReferenced days)) :
    (((∀ airing ∈ airingsOf days, Joinable details airing) ∧
        ∃ records, mergeAll channel days details artwork base = .ok records ∧
          List.Forall₂ (Joins channel details artwork base) (airingsOf days) records) ∨
      ∃ before airing after failure, airingsOf days = before ++ airing :: after ∧
        (∀ earlier ∈ before, Joinable details earlier) ∧ Hindered details airing failure ∧
        mergeAll channel days details artwork base = .error failure) ∧
    mergeAll channel days details' artwork' base =
      mergeAll channel days details artwork base := by
  constructor
  · cases hresult : mergeAll channel days details artwork base with
    | ok records =>
        refine .inl ⟨joinable_of_mergeAll hresult, records, rfl, ?_⟩
        exact (mergeAll_eq_ok_iff.mp hresult).imp fun _ _ => joins_of_ofAiring hkeys
    | error failure =>
        obtain ⟨before, airing, after, hairings, hbefore, hhindered⟩ :=
          hindered_of_mergeAll hresult
        exact .inr ⟨before, airing, after, failure, hairings, hbefore, hhindered, rfl⟩
  · have hindex : mergeAll channel days details' artwork' base =
        mergeAll channel days details' artwork base :=
      mergeAll_congr fun _ => (ArtworkIndex.get?_perm hkeys hartwork).symm
    rw [hindex, mergeAll_congr_details hdetails]

end ProgramRecord

/-! ## A rerun -/

namespace Rerun

def visit (id : String) (hour : Int) : Airing :=
  ⟨id, ⟨hour * 3600, 0⟩, 3600, none, none, none, none, none, false, none⟩

def titled (id title : String) : ProgramDetails :=
  ⟨id, [some title], none, none, none, [], none, none, none, [], none, false⟩

def days : List ScheduleDay :=
  [⟨"20454", [visit "EP0000000001" 1, visit "MV02" 2]⟩, ⟨"20454", [visit "EP0000000001" 25]⟩]

def details : List ProgramDetails :=
  [titled "EP0000000001" "Pilot", titled "MV02" "Film", titled "EP0000000001" "Reunion"]

def artwork : ArtworkIndex :=
  [("EP00000000", [.ofDimensions "240" "360" true "p.jpg"]), ("MV01", [])]

def farDays : List ScheduleDay := [⟨"20454", [visit "MV02" 245705928]⟩]

end Rerun

open Rerun ProgramRecord in
theorem mergeAll_joins_rerun :
    (∃ records, mergeAll "20454" days details artwork "" = .ok records ∧
      List.Forall₂ (Joins "20454" details artwork "") (airingsOf days) records) ∧
    mergeAll "20454" days (titled "EP03" "Other" :: details) artwork.reverse "" =
      mergeAll "20454" days details artwork "" := by
  have hall : ∀ airing ∈ airingsOf days, Joinable details airing := by decide +kernel
  obtain ⟨⟨-, hrecords⟩ | ⟨before, airing, after, failure, hairings, -, hhindered, -⟩, hsame⟩ :=
    @mergeAll_joins "20454" "" days details (titled "EP03" "Other" :: details) artwork
      artwork.reverse (by decide) (List.reverse_perm _).symm (by decide +kernel)
  · exact ⟨hrecords, hsame⟩
  · exact absurd (hall airing (by simp [hairings])) hhindered.not_joinable

open Rerun ProgramRecord in
/-- All details are there, and still the far film leaves no record. -/
theorem not_joins_of_far :
    ¬∀ (channel base : String) (days : List ScheduleDay) (details : List ProgramDetails)
      (artwork : ArtworkIndex), (∀ airing ∈ airingsOf days, Detailed details airing) →
      ∃ records, mergeAll channel days details artwork base = .ok records := by
  intro h
  have hoverflow : mergeAll "20454" farDays details artwork "" = .error .overflow := by rfl
  obtain ⟨records, hrecords⟩ := h "20454" "" farDays details artwork (by decide +kernel)
  rw [hoverflow] at hrecords
  cases hrecords

end ProgramGuide
