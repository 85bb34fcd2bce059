import ProgramGuide.Proofs.Artwork.Selection
import ProgramGuide.Proofs.Text.Search

/-!
# Locations of pictures

A location starts with a scheme of the web, in any case.  A reference that is none has its
place below the base, but one that so much as mentions the name of a scheme is taken for a
location and left as it is.
-/

namespace ProgramGuide

namespace Address

/-! ## Locations -/

def schemes : List (List Char) := ["http://".toList, "https://".toList]

def folded (s : String) : List Char := s.toList.map Char.toLower

/-- The text starts with a scheme, in any case. -/
def Located (s : String) : Prop := ∃ scheme ∈ schemes, scheme <+: folded s

instance (s : String) : Decidable (Located s) :=
  inferInstanceAs (Decidable (∃ scheme ∈ schemes, scheme <+: folded s))

/-- The name of the protocol occurs in the text, in any case. -/
def Mentions (s : String) : Prop := "http".toList <:+: folded s

/-- There is more than slashes behind the scheme. -/
def Hosted (s : String) : Prop :=
  ∃ scheme ∈ schemes, ∃ rest, folded s = scheme ++ rest ∧ ∃ c ∈ rest, c ≠ '/'

/-- The place of a reference below the base, with one slash on either side of the path of the
images, whatever slashes are where they are joined. -/
inductive Below (base uri : String) : String → Prop
  | joined {stem path : List Char} {m n : Nat}
      (hbase : base.toList = stem ++ List.replicate m '/') (hstem : stem.getLast? ≠ some '/')
      (huri : uri.toList = List.replicate n '/' ++ path) (hpath : path.head? ≠ some '/') :
      Below base uri (String.ofList (stem ++ "/image/".toList ++ path))

/-- What should become of a reference. -/
structure Resolved (base uri url : String) : Prop where
  located : Located url
  kept : Located uri → url = uri
  below : ¬Located uri → Below base uri url

variable {base uri url : String}

theorem Located.mentions (h : Located uri) : Mentions uri := by
  obtain ⟨scheme, hscheme, hprefix⟩ := h
  have hname : ∀ scheme ∈ schemes, "http".toList <+: scheme := by decide
  exact ((hname scheme hscheme).trans hprefix).isInfix

theorem isAbsolute_iff : isAbsolute uri = true ↔ Mentions uri := Text.occursIn_iff

theorem image_of_mentions (base : String) (h : Mentions uri) : image base uri = uri :=
  if_pos (isAbsolute_iff.mpr h)

/-! ## Slashes -/

theorem exists_trailing (cs : List Char) : ∃ n,
    cs = withoutTrailingSlashes cs ++ List.replicate n '/' ∧
      (withoutTrailingSlashes cs).getLast? ≠ some '/' := by
  obtain ⟨n, hcs, hhead⟩ := Text.exists_dropped '/' cs.reverse
  rw [withoutTrailingSlashes, List.getLast?_reverse]
  refine ⟨n, ?_, hhead⟩
  rw [← List.reverse_replicate, ← List.reverse_append, ← hcs, List.reverse_reverse]

theorem below_image (base : String) (h : ¬Mentions uri) : Below base uri (image base uri) := by
  obtain ⟨m, hbase, hstem⟩ := exists_trailing base.toList
  obtain ⟨n, huri, hpath⟩ := Text.exists_dropped '/' uri.toList
  have hjoined : image base uri = String.ofList
      (withoutTrailingSlashes base.toList ++ "/image/".toList ++
        withoutLeadingSlashes uri.toList) := by
    rw [image, if_neg (mt isAbsolute_iff.mp h), endpoint, String.toList_ofList]
    simp [withoutLeadingSlashes]
  rw [hjoined]
  exact .joined hbase hstem huri hpath

theorem toLower_eq_slash {c : Char} (h : c.toLower = '/') : c = '/' := by
  have hslash : '/'.toNat = 47 := rfl
  cases Text.eq_or_before_of_toLower h with
  | inl hc => exact hc
  | inr hc => omega

/-- A scheme ends in two slashes, and the path of the images starts with only one. -/
theorem scheme_ends {scheme : List Char} (h : scheme ∈ schemes) :
    scheme.getLast? = some '/' ∧ scheme.dropLast.getLast? = some '/' ∧ 'i' ∉ scheme := by
  revert h scheme
  decide

theorem prefix_append_image_iff {scheme start : List Char} (hscheme : scheme ∈ schemes)
    (hstart : start.getLast? ≠ some '/') (rest : List Char) :
    scheme <+: start ++ '/' :: 'i' :: rest ↔ scheme <+: start := by
  constructor
  · rintro ⟨tail, htail⟩
    obtain ⟨hlast, hsecond, hother⟩ := scheme_ends hscheme
    obtain ⟨behind, hbehind, -⟩ | ⟨ahead, hahead, htail⟩ := List.append_eq_append_iff.mp htail
    · exact ⟨behind, hbehind.symm⟩
    · -- The scheme would end at the join, behind its first slash or beyond the second.
      exfalso
      match ahead with
      | [] => exact hstart (by rwa [hahead, List.append_nil] at hlast)
      | [c] => exact hstart (by rwa [hahead, List.dropLast_concat] at hsecond)
      | c :: d :: ahead =>
          obtain ⟨-, rfl, -⟩ : '/' = c ∧ 'i' = d ∧ _ := by simpa using htail
          exact hother (by simp [hahead])
  · exact fun h => h.trans (List.prefix_append _ _)

/-- The scheme is left when slashes are cut from the end, unless there is nothing else. -/
theorem prefix_iff_hosted {scheme start : List Char} (hscheme : scheme ∈ schemes)
    (hstart : start.getLast? ≠ some '/') (m : Nat) :
    scheme <+: start ↔
      ∃ rest, start ++ List.replicate m '/' = scheme ++ rest ∧ ∃ c ∈ rest, c ≠ '/' := by
  constructor
  · rintro ⟨behind, rfl⟩
    refine ⟨behind ++ List.replicate m '/', List.append_assoc _ _ _, ?_⟩
    rw [List.getLast?_append] at hstart
    cases hbehind : behind.getLast? with
    | none => exact absurd (by rw [hbehind, Option.none_or, (scheme_ends hscheme).1]) hstart
    | some c =>
        refine ⟨c, List.mem_append_left _ (List.mem_of_getLast? hbehind), ?_⟩
        rintro rfl
        exact absurd (by rw [hbehind, Option.some_or]) hstart
  · rintro ⟨rest, hrest, c, hc, hother⟩
    obtain ⟨slashes, -, hslashes⟩ | ⟨behind, hbehind, -⟩ := List.append_eq_append_iff.mp hrest
    · have hmem : c ∈ List.replicate m '/' := by
        rw [hslashes]
        exact List.mem_append_right slashes hc
      exact absurd (List.eq_of_mem_replicate hmem) hother
    · exact ⟨behind, hbehind.symm⟩

theorem located_iff_of_below (h : Below base uri url) : Located url ↔ Hosted base := by
  obtain @⟨stem, path, m, n, hbase, hstem, -, -⟩ := h
  have hstart : (stem.map Char.toLower).getLast? ≠ some '/' := by
    rw [List.getLast?_map, ne_eq, Option.map_eq_some_iff]
    rintro ⟨c, hc, hslash⟩
    exact hstem (by rw [hc, toLower_eq_slash hslash])
  have hurl : folded (String.ofList (stem ++ "/image/".toList ++ path)) =
      stem.map Char.toLower ++ '/' :: 'i' :: ("mage/".toList ++ path.map Char.toLower) := by
    simp [folded]
  have hfolded : folded base = stem.map Char.toLower ++ List.replicate m '/' := by
    simp [folded, hbase]
  unfold Located Hosted
  rw [hurl, hfolded]
  refine exists_congr fun scheme => and_congr_right fun hscheme => ?_
  rw [prefix_append_image_iff hscheme hstart, prefix_iff_hosted hscheme hstart]

/-! ## References -/

theorem located_image_iff :
    Located (image base uri) ↔ Located uri ∨ ¬Mentions uri ∧ Hosted base := by
  by_cases hmentions : Mentions uri
  · simp [image_of_mentions base hmentions, hmentions]
  · have hlocated : ¬Located uri := mt Located.mentions hmentions
    simp [located_iff_of_below (below_image base hmentions), hmentions, hlocated]

theorem resolved_of_located (h : Located (image base uri)) :
    Resolved base uri (image base uri) where
  located := h
  kept huri := image_of_mentions base huri.mentions
  below huri := by
    apply below_image base
    intro hmentions
    rw [image_of_mentions base hmentions] at h
    exact huri h

/-- Each picture is the reference of a candidate, and is located under the condition for such
references. -/
def Pictured (base : String) (candidates : List ArtworkCandidate) (images : ProgramImages) :
    Prop :=
  ∀ url, images.primary = some url ∨ images.thumb = some url ∨ images.backdrop = some url →
    ∃ c ∈ candidates, ∃ uri, c.uri = some uri ∧ url = image base uri ∧
      (Located url ↔ Located uri ∨ ¬Mentions uri ∧ Hosted base)

theorem pictured_of_roles {candidates : List ArtworkCandidate} {images : ProgramImages}
    (h : ProgramImages.Roles base candidates images) : Pictured base candidates images := by
  intro url hurl
  obtain ⟨c, hc, uri, huri, -, rfl⟩ := h.shown url hurl
  exact ⟨c, hc, uri, huri, rfl, located_image_iff⟩

/-- A reference comes out right if it is a location, or if it mentions no scheme and the base
is a location with something behind its slashes; and so do the pictures of programs and of
the records of a schedule. -/
theorem resolved_iff (base : String) :
    (∀ uri, Resolved base uri (image base uri) ↔
      Located uri ∨ ¬Mentions uri ∧ Hosted base) ∧
    (∀ candidates, Pictured base candidates (ProgramImages.choose base candidates)) ∧
    ∀ channel days details artwork records,
      ProgramRecord.mergeAll channel days details artwork base = .ok records →
        List.Forall₂ (fun airing record =>
          Pictured base ((artwork.get? (ProgramId.root airing.programId)).getD []) record.images)
          (airingsOf days) records := by
  refine ⟨?_, fun candidates => pictured_of_roles (ProgramImages.roles_choose _ _), ?_⟩
  · intro uri
    rw [← located_image_iff]
    exact ⟨Resolved.located, resolved_of_located⟩
  · intro channel days details artwork records h
    apply (ProgramRecord.mergeAll_eq_ok_iff.mp h).imp
    intro airing record hrecord
    obtain ⟨found, -, hmerge⟩ := ProgramRecord.ofAiring_eq_ok_iff.mp hrecord
    rw [ProgramRecord.images_of_merge? hmerge]
    exact pictured_of_roles (ProgramImages.roles_choose _ _)

open Rerun in
theorem resolved_iff_rerun :
    ∃ records, ProgramRecord.mergeAll "20454" days details artwork "https://h" = .ok records ∧
      List.Forall₂ (fun airing record =>
        Pictured "https://h" ((artwork.get? (ProgramId.root airing.programId)).getD [])
          record.images)
        (airingsOf days) records :=
  ⟨_, rfl, (resolved_iff "https://h").2.2 "20454" days details artwork _ rfl⟩

/-- A path is taken for a location when a file is named after the protocol. -/
theorem not_resolved_of_mention :
    ¬∀ base uri, Located base → Text.blank uri = false → Resolved base uri (image base uri) := by
  intro h
  have hresolved := h "https://h" "assets/http_logo.jpg" (by decide) (by decide)
  exact absurd hresolved.located (by decide)

end Address

end ProgramGuide
