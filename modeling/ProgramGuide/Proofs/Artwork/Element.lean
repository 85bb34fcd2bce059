import Mathlib.Data.List.Basic
import ProgramGuide.Artwork.Index
import ProgramGuide.Proofs.Service.Payload

/-!
# Elements of an artwork payload

Every element gives a program id and some data.  What is in the data but is no candidate
does not matter, nor does it matter how the candidates of one program are spread over
elements that follow each other.
-/

namespace ProgramGuide

open Json

/-! ## Sound values -/

namespace Json

mutual

/-- Whether no object in the value has a key twice. -/
def keysDistinct : Json → Bool
  | .array items => itemsDistinct items
  | .object members => (members.map (·.1)).Nodup && membersDistinct members
  | .brokenObject _ => false
  | _ => true

def itemsDistinct : List Json → Bool
  | [] => true
  | j :: rest => keysDistinct j && itemsDistinct rest

def membersDistinct : List (String × Json) → Bool
  | [] => true
  | (_, j) :: rest => keysDistinct j && membersDistinct rest

end

/-- The value of a text without repeated keys, nested within the limit. -/
structure Sound (depth : Nat) (j : Json) : Prop where
  usable : j.usable depth = true
  distinct : j.keysDistinct = true

/-- The items of an array, or the values in an object. -/
def parts : Json → List Json
  | .array items => items
  | .object members => members.map (·.2)
  | _ => []

theorem usableItems_iff {depth : Nat} {items : List Json} :
    usableItems items depth = true ↔ ∀ j ∈ items, j.usable depth = true := by
  induction items with
  | nil => simp [usableItems]
  | cons j items ih => simp [usableItems, ih]

theorem usableMembers_iff {depth : Nat} {members : List (String × Json)} :
    usableMembers members depth = true ↔ ∀ j ∈ members.map (·.2), j.usable depth = true := by
  induction members with
  | nil => simp [usableMembers]
  | cons m members ih =>
      obtain ⟨key, j⟩ := m
      rw [usableMembers, Bool.and_eq_true, ih, List.map_cons, List.forall_mem_cons]

theorem itemsDistinct_iff {items : List Json} :
    itemsDistinct items = true ↔ ∀ j ∈ items, j.keysDistinct = true := by
  induction items with
  | nil => simp [itemsDistinct]
  | cons j items ih => simp [itemsDistinct, ih]

theorem membersDistinct_iff {members : List (String × Json)} :
    membersDistinct members = true ↔ ∀ j ∈ members.map (·.2), j.keysDistinct = true := by
  induction members with
  | nil => simp [membersDistinct]
  | cons m members ih =>
      obtain ⟨key, j⟩ := m
      rw [membersDistinct, Bool.and_eq_true, ih, List.map_cons, List.forall_mem_cons]

theorem Sound.part {depth : Nat} {j part : Json} (h : j.Sound (depth + 1))
    (hpart : part ∈ j.parts) : part.Sound depth := by
  obtain ⟨husable, hdistinct⟩ := h
  cases j with
  | array items =>
      rw [Json.usable, usableItems_iff] at husable
      rw [keysDistinct, itemsDistinct_iff] at hdistinct
      exact ⟨husable part hpart, hdistinct part hpart⟩
  | object members =>
      rw [Json.usable, usableMembers_iff] at husable
      rw [keysDistinct, Bool.and_eq_true, membersDistinct_iff] at hdistinct
      exact ⟨husable part hpart, hdistinct.2 part hpart⟩
  | _ => cases hpart

theorem valuesOf_subset (key : String) (members : List (String × Json)) :
    valuesOf key members ⊆ members.map (·.2) :=
  (List.filter_sublist.map _).subset

theorem valuesOf_eq_singleton (key : String) {members : List (String × Json)}
    (h : (members.map (·.1)).Nodup) : valuesOf key members = [] ∨
      ∃ value, valuesOf key members = [value] := by
  induction members with
  | nil => exact .inl rfl
  | cons m members ih =>
      obtain ⟨hfirst, hrest⟩ := List.nodup_cons.mp h
      rw [valuesOf_cons]
      split
      next hkey =>
        have hnone : valuesOf key members = [] := by
          rw [valuesOf_eq_nil_iff]
          intro other hother hsame
          exact hfirst (List.mem_map.mpr ⟨other, hother, hsame.trans hkey.symm⟩)
        exact .inr ⟨m.2, by rw [hnone]⟩
      next => exact ih hrest

theorem rough_settle (j : Json) : j.settle = j ∨ Rough j j.settle := by
  cases j with
  | array items => exact .inr (.arrays _ _)
  | object members => exact .inr (.objects _ _)
  | _ => exact .inl rfl

theorem itemsAlike_settle (shapes : List Shape) (items : List Json) :
    ItemsAlike (fun _ => Rough) shapes items (items.map settle) := by
  induction items generalizing shapes with
  | nil => exact .nil _
  | cons item items ih =>
      cases shapes with
      | nil => exact .surplus (by simp)
      | cons s shapes => exact .cons ((rough_settle item).imp_left Eq.symm) (ih shapes)

end Json

/-! ## Candidates -/

/-- Nothing but the order of members and the parts of members are settled. -/
theorem ArtworkCandidate.ofJson?_settle {j : Json} (h : j.keysDistinct = true) :
    ofJson? j.settle = ofJson? j := by
  have hdepends : fields.Depends (fun _ => Rough) entries := depends id
  cases j with
  | object members =>
      rw [keysDistinct, Bool.and_eq_true, decide_eq_true_eq] at h
      refine (hdepends.members fun e he => ?_).symm
      rw [valuesOf_settled]
      obtain hnone | ⟨value, hvalue⟩ := valuesOf_eq_singleton e.key h.1
      · rw [hnone]
        exact .refl _
      · rw [hvalue]
        obtain hsame | hrough := rough_settle value
        · simp only [settledValues, List.getLast?_singleton, hsame]
          exact .refl _
        · exact .member [] [] hrough
  | array items =>
      rw [settle, settleItems_eq_map]
      refine (hdepends.decode?_items ?_).symm
      exact itemsAlike_settle _ items
  | _ => rfl

namespace ShowArtwork

/-- The candidates in some data, which need not be usable as a whole. -/
def candidatesIn : Json → List ArtworkCandidate
  | .array items => items.filterMap ArtworkCandidate.ofJson?
  | _ => []

theorem candidates?_of_sound {depth : Nat} {j : Json} (h : j.Sound depth) :
    candidates? depth j = some (candidatesIn j) := by
  unfold candidates?
  rw [if_pos h.usable]
  cases j with
  | array items =>
      have hitems : ∀ item ∈ items, (ArtworkCandidate.ofJson? ∘ Json.settle) item =
          ArtworkCandidate.ofJson? item := by
        have hdistinct := h.distinct
        rw [keysDistinct, itemsDistinct_iff] at hdistinct
        exact fun item hitem => ArtworkCandidate.ofJson?_settle (hdistinct item hitem)
      simp only [settle, settleItems_eq_map, candidatesIn, List.filterMap_map,
        List.filterMap_congr hitems]
  | _ => rfl

/-! ## Elements -/

open Fields in
def fieldsWith (data : Json → Option (List ArtworkCandidate)) : Fields ShowArtwork :=
  ShowArtwork.mk <$> required "programID" string? <*> withDefault "data" data []

theorem ofMembers_fieldsWith (data : Json → Option (List ArtworkCandidate))
    (members : List (String × Json)) :
    (fieldsWith data).ofMembers members =
      (Fields.fromValues string? none (valuesOf "programID" members)).bind fun programId =>
        (Fields.fromValues data (some []) (valuesOf "data" members)).map
          (ShowArtwork.mk programId) := by
  rw [fieldsWith, Fields.ofMembers_apply, Fields.ofMembers_map, Fields.required,
    Fields.withDefault, Fields.ofMembers_field, Fields.ofMembers_field, Option.bind_map]
  rfl

theorem ofItems_fieldsWith (data : Json → Option (List ArtworkCandidate)) (id value : Json)
    (rest : List Json) :
    (fieldsWith data).ofItems (id :: value :: rest) =
      (string? id).bind fun programId =>
        (data value).map fun candidates => (⟨programId, candidates⟩, rest) := by
  rw [fieldsWith, Fields.ofItems_apply, Fields.ofItems_map]
  cases hid : string? id with
  | none => simp [Fields.required, Fields.field, hid]
  | some programId =>
      simp [Fields.required, Fields.withDefault, Fields.field, hid, Function.comp_def]

theorem decode?_fieldsWith_congr {data data' : Json → Option (List ArtworkCandidate)}
    {e : Json} (h : ∀ part ∈ e.parts, data part = data' part) :
    (fieldsWith data).decode? e = (fieldsWith data').decode? e := by
  cases e with
  | object members =>
      have hdata : Fields.fromValues data (some []) (valuesOf "data" members) =
          Fields.fromValues data' (some []) (valuesOf "data" members) :=
        Fields.fromValues_congr_decode fun value hvalue =>
          h value (valuesOf_subset "data" members hvalue)
      simp only [Fields.decode?, ofMembers_fieldsWith, hdata]
  | array items =>
      obtain _ | ⟨id, _ | ⟨value, rest⟩⟩ := items
      · rfl
      · simp only [Fields.decode?, fieldsWith, Fields.ofItems_apply, Fields.ofItems_map,
          Fields.required, Fields.withDefault, Fields.field]
        cases string? id <;> rfl
      · simp only [Fields.decode?, ofItems_fieldsWith, h value (by simp [parts])]
  | _ => rfl

/-- What is read from an element if its data are not looked at as a whole. -/
def leniently? : Json → Option ShowArtwork := (fieldsWith (some ∘ candidatesIn)).decode?

theorem ofJson?_of_sound {depth : Nat} {e : Json} (h : e.Sound (depth + 1)) :
    ofJson? (depth + 1) e = leniently? e :=
  decode?_fieldsWith_congr fun _ hpart => candidates?_of_sound (h.part hpart)

/-- An element with an id and some data, each as it is sent. -/
inductive Element (id : List Json) (data : Json) : Json → Prop
  | object {members} (hid : valuesOf "programID" members = id)
      (hdata : valuesOf "data" members = [data]) : Element id data (.object members)
  | array {i} (hid : id = [i]) : Element id data (.array [i, data])

theorem leniently?_of_element {id : List Json} {data e : Json} (h : Element id data e) :
    leniently? e = (Fields.fromValues string? none id).map (⟨·, candidatesIn data⟩) := by
  unfold leniently?
  cases h with
  | object hid hdata =>
      rw [Fields.decode?, ofMembers_fieldsWith, hid, hdata]
      cases Fields.fromValues string? none id <;> rfl
  | @array i hid =>
      subst hid
      rw [Fields.decode?, ofItems_fieldsWith, Fields.fromValues]
      cases string? i <;> rfl

/-! ## Harmless changes -/

/-- Elements for which others may stand: what is no candidate is put in, data that are no
list stand for an empty one, or the candidates of a program are split up. -/
inductive Harmless : List Json → List Json → Prop
  | item {id e e'} (xs ys) {bad : Json} (hbad : ArtworkCandidate.ofJson? bad = none)
      (he : Element id (.array (xs ++ ys)) e)
      (he' : Element id (.array (xs ++ bad :: ys)) e') : Harmless [e] [e']
  | data {id e e'} {data : Json} (hdata : ∀ items, data ≠ .array items)
      (he : Element id data e) (he' : Element id (.array []) e') : Harmless [e] [e']
  | split {id e first second} (xs ys) (he : Element id (.array (xs ++ ys)) e)
      (hfirst : Element id (.array xs) first) (hsecond : Element id (.array ys) second) :
      Harmless [e] [first, second]

/-- Payloads that are equal but for some elements of the one. -/
inductive Swapped : Json → Json → Prop
  | elements (before after) {es es'} (h : Harmless es es') :
      Swapped (.array (before ++ es ++ after)) (.array (before ++ es' ++ after))

/-- Shows that add the same to every index. -/
def AddAlike (shows shows' : List ShowArtwork) : Prop :=
  ∀ index, shows.foldl (fun index artwork => ArtworkIndex.add artwork index) index =
    shows'.foldl (fun index artwork => ArtworkIndex.add artwork index) index

theorem add_append (id : String) (xs ys : List ArtworkCandidate) (index : ArtworkIndex) :
    ArtworkIndex.add ⟨id, xs ++ ys⟩ index =
      ArtworkIndex.add ⟨id, ys⟩ (ArtworkIndex.add ⟨id, xs⟩ index) := by
  induction index with
  | nil => simp [ArtworkIndex.add]
  | cons entry index ih =>
      obtain ⟨root, candidates⟩ := entry
      by_cases hroot : root = id
      · simp [ArtworkIndex.add, hroot]
      · simp [ArtworkIndex.add, hroot, ih]

theorem candidatesIn_of_not_list {data : Json} (h : ∀ items, data ≠ .array items) :
    candidatesIn data = [] := by
  cases data with
  | array items => exact absurd rfl (h items)
  | _ => rfl

theorem addAlike_of_harmless {es es' : List Json} (h : Harmless es es') :
    Option.Rel AddAlike (each? leniently? es) (each? leniently? es') := by
  cases h with
  | @item id e e' xs ys bad hbad he he' =>
      have hsame : candidatesIn (.array (xs ++ bad :: ys)) = candidatesIn (.array (xs ++ ys)) := by
        simp [candidatesIn, hbad]
      simp only [each?, leniently?_of_element he, leniently?_of_element he', hsame]
      cases Fields.fromValues string? none id with
      | none => exact .none
      | some programId => exact .some fun _ => rfl
  | @data id e e' data hdata he he' =>
      simp only [each?, leniently?_of_element he, leniently?_of_element he',
        candidatesIn_of_not_list hdata]
      cases Fields.fromValues string? none id with
      | none => exact .none
      | some programId => exact .some fun _ => rfl
  | @split id e first second xs ys he hfirst hsecond =>
      have hcandidates : candidatesIn (.array (xs ++ ys)) =
          candidatesIn (.array xs) ++ candidatesIn (.array ys) := List.filterMap_append
      simp only [each?, leniently?_of_element he, leniently?_of_element hfirst,
        leniently?_of_element hsecond, hcandidates]
      cases Fields.fromValues string? none id with
      | none => exact .none
      | some programId => exact .some fun index => add_append programId _ _ index

theorem each?_append {decode : Json → Option α} (xs ys : List Json) :
    each? decode (xs ++ ys) =
      (each? decode xs).bind fun as => (each? decode ys).map (as ++ ·) := by
  induction xs with
  | nil => simp [each?]
  | cons j xs ih =>
      rw [List.cons_append, each?, each?, ih]
      cases decode j <;> cases each? decode xs <;> cases each? decode ys <;> rfl

/-- The artwork of a payload whose data are not looked at as a whole. -/
def lenientIndex? (j : Json) : Option ArtworkIndex :=
  (list? leniently? j).map ArtworkIndex.ofShows

theorem respects_swapped : Respects Swapped lenientIndex? := by
  intro j j' hswapped
  obtain @⟨before, after, es, es', h⟩ := hswapped
  have hrel := addAlike_of_harmless h
  simp only [lenientIndex?, list?, each?_append]
  generalize each? leniently? es = shows, each? leniently? es' = shows' at hrel
  cases each? leniently? before with
  | none => rfl
  | some earlier =>
      cases hrel with
      | none => rfl
      | some hrel =>
          cases each? leniently? after with
          | none => rfl
          | some later => simp [ArtworkIndex.ofShows, List.foldl_append, hrel _]

theorem each?_congr_mem {decode decode' : Json → Option α} {items : List Json}
    (h : ∀ j ∈ items, decode j = decode' j) : each? decode items = each? decode' items := by
  induction items with
  | nil => rfl
  | cons j items ih =>
      rw [List.forall_mem_cons] at h
      rw [each?, each?, h.1, ih h.2]

theorem lenientIndex?_of_sound {j : Json} (h : j.Sound nestingLimit) :
    (listOfJson? j).map ArtworkIndex.ofShows = lenientIndex? j := by
  cases j with
  | array items =>
      have heach : each? (ofJson? (nestingLimit - 1)) items = each? leniently? items :=
        each?_congr_mem fun e he => ofJson?_of_sound (h.part he)
      simp only [lenientIndex?, listOfJson?, list?, heach]
  | _ => rfl

/-- Two sound payloads that come from each other by harmless changes, some perhaps by way
of payloads that are not sound, come to the same artwork, or neither can be read. -/
theorem index_of_swapped {j j' : Json} (h : Relation.EqvGen Swapped j j')
    (hj : j.Sound nestingLimit) (hj' : j'.Sound nestingLimit) :
    (listOfJson? j).map ArtworkIndex.ofShows = (listOfJson? j').map ArtworkIndex.ofShows := by
  rw [lenientIndex?_of_sound hj, lenientIndex?_of_sound hj']
  exact respects_swapped.eqvGen h

end ShowArtwork

end ProgramGuide
