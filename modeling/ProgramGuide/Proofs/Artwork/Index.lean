import ProgramGuide.Artwork.Index
import ProgramGuide.Proofs.Schedule.Airing

/-!
# Indexes of artwork

The index of some shows holds for every program id the candidates of all shows with that
id, in order.  What is found in an index without repeated ids does not depend on its
order.
-/

namespace ProgramGuide.ArtworkIndex

def candidatesOf (shows : List ShowArtwork) (id : String) : List ArtworkCandidate :=
  (shows.filter (·.programId == id)).flatMap (·.candidates)

/-- For each program id of some shows the candidates of all shows with that id. -/
def gather (shows : List ShowArtwork) : ArtworkIndex :=
  (firstOfEach (shows.map (·.programId))).map fun id => (id, candidatesOf shows id)

theorem get?_add (artwork : ShowArtwork) (index : ArtworkIndex) (id : String) :
    (add artwork index).get? id =
      if artwork.programId = id then some ((index.get? id).getD [] ++ artwork.candidates)
      else index.get? id := by
  unfold get?
  induction index with
  | nil =>
      by_cases hid : artwork.programId = id
      · simp [add, hid]
      · simp [add, hid, List.lookup_cons, beq_eq_false_iff_ne.mpr (Ne.symm hid)]
  | cons entry index ih =>
      obtain ⟨root, candidates⟩ := entry
      unfold add
      by_cases hroot : root = artwork.programId
      · subst hroot
        by_cases hid : artwork.programId = id
        · simp [hid]
        · simp [hid, List.lookup_cons, beq_eq_false_iff_ne.mpr (Ne.symm hid)]
      · by_cases hid : id = root
        · subst hid
          simp [hroot, Ne.symm hroot]
        · simp [hroot, List.lookup_cons, beq_eq_false_iff_ne.mpr hid, ih]

private theorem get?_foldl (shows : List ShowArtwork) (index : ArtworkIndex) (id : String) :
    (shows.foldl (fun index artwork => add artwork index) index).get? id =
      if id ∈ shows.map (·.programId) then
        some ((index.get? id).getD [] ++ candidatesOf shows id)
      else index.get? id := by
  induction shows generalizing index with
  | nil => simp
  | cons artwork shows ih =>
      rw [List.foldl_cons, ih, get?_add]
      by_cases hid : artwork.programId = id
      · subst hid
        by_cases hmem : artwork.programId ∈ shows.map (·.programId)
        · simp [candidatesOf, hmem]
        · have hnone : candidatesOf shows artwork.programId = [] := by
            have hfilter : shows.filter (·.programId == artwork.programId) = [] := by
              rw [List.filter_eq_nil_iff]
              intro other hother hsame
              refine hmem (List.mem_map.mpr ⟨other, hother, ?_⟩)
              simpa using hsame
            rw [candidatesOf, hfilter]
            rfl
          simp only [candidatesOf] at hnone ⊢
          simp [hmem, hnone]
      · simp [candidatesOf, hid, Ne.symm hid]

theorem get?_ofShows (shows : List ShowArtwork) (id : String) :
    (ofShows shows).get? id =
      if id ∈ shows.map (·.programId) then some (candidatesOf shows id) else none := by
  simpa [ofShows, get?] using get?_foldl shows [] id

private theorem lookup_map {ids : List String} {f : String → List ArtworkCandidate}
    {id : String} :
    (ids.map fun id => (id, f id)).lookup id = if id ∈ ids then some (f id) else none := by
  induction ids with
  | nil => rfl
  | cons first ids ih =>
      by_cases hid : id = first
      · simp [hid]
      · simp [List.lookup_cons, beq_eq_false_iff_ne.mpr hid, hid, ih]

theorem get?_gather (shows : List ShowArtwork) (id : String) :
    (gather shows).get? id = (ofShows shows).get? id := by
  rw [get?_ofShows, gather, get?, lookup_map]
  simp only [mem_firstOfEach]

section Keys

variable {index index' : ArtworkIndex} {root : String}

theorem get?_eq_none_iff : index.get? root = none ↔ ∀ entry ∈ index, entry.1 ≠ root := by
  unfold get?
  rw [List.lookup_eq_none_iff]
  apply forall₂_congr
  intro entry _
  rw [bne_iff_ne, ne_comm]

theorem get?_eq_some_iff {candidates : List ArtworkCandidate}
    (hkeys : (index.map Prod.fst).Nodup) :
    index.get? root = some candidates ↔ (root, candidates) ∈ index := by
  unfold get?
  induction index with
  | nil => simp
  | cons entry index ih =>
      obtain ⟨key, found⟩ := entry
      rw [List.map_cons, List.nodup_cons] at hkeys
      by_cases hroot : root = key
      · subst hroot
        have hother : (root, candidates) ∉ index := fun hmem =>
          hkeys.1 (List.mem_map.mpr ⟨_, hmem, rfl⟩)
        simp [hother, eq_comm]
      · rw [List.lookup_cons, beq_eq_false_iff_ne.mpr hroot, List.mem_cons, ih hkeys.2]
        simp [hroot]

theorem get?_perm (hkeys : (index.map Prod.fst).Nodup) (h : index.Perm index') :
    index.get? root = index'.get? root := by
  have hkeys' : (index'.map Prod.fst).Nodup := (h.map Prod.fst).nodup_iff.mp hkeys
  apply Option.ext
  intro candidates
  rw [get?_eq_some_iff hkeys, get?_eq_some_iff hkeys', h.mem_iff]

end Keys

end ProgramGuide.ArtworkIndex
