import ProgramGuide.Proofs.Artwork.Element
import ProgramGuide.Proofs.Artwork.Optimum
import ProgramGuide.Proofs.Json.Number

/-!
# Dimensions as numbers and as strings

A dimension may be sent as a number or as a string of the same text.  Kept as text the two
can differ, but they count as the same: a whole number as itself within the signed words,
and as zero beyond them; a number with a fraction or an exponent as zero.  So neither the
aspects nor the choice of pictures depend on the form.
-/

namespace ProgramGuide

open Json

/-! ## Single dimensions -/

namespace Json.Number

def Literal.pixels (l : Literal) : Int :=
  if l.fraction = none ∧ l.exponent = none ∧ -2 ^ 63 ≤ l.wholeValue ∧ l.wholeValue < 2 ^ 63
  then l.wholeValue else 0

/-- A number literal as it may be sent: as a number, or as a string of its text. -/
inductive Sent (cs : List Char) : Json → Prop
  | number {n} (h : read? (String.ofList cs) = some (.number n)) : Sent cs (.number n)
  | string : Sent cs (.string (String.ofList cs))

/-- Two forms of one literal. -/
inductive Requoted : Json → Json → Prop
  | literal {cs l j j'} (hspells : Spells cs l) (h : Sent cs j) (h' : Sent cs j') :
      Requoted j j'

variable {cs : List Char} {j j' : Json}

theorem Sent.settle (h : Sent cs j) : j.settle = j := by
  cases h <;> rfl

theorem Sent.usable (h : Sent cs j) (depth : Nat) : j.usable depth = true := by
  cases h <;> cases depth <;> rfl

theorem Requoted.settle (h : Requoted j j') : Requoted j.settle j'.settle := by
  obtain ⟨hspells, h, h'⟩ := h
  rw [h.settle, h'.settle]
  exact ⟨hspells, h, h'⟩

theorem Requoted.usable (h : Requoted j j') (depth : Nat) : j.usable depth = j'.usable depth := by
  obtain ⟨-, h, h'⟩ := h
  rw [h.usable, h'.usable]

end Json.Number

namespace ArtworkCandidate

open Number

theorem pixels_of_integer? {cs : List Char} {n : Int} (h : Text.integer? cs = some n) :
    pixels (some (String.ofList cs)) = if -2 ^ 63 ≤ n ∧ n < 2 ^ 63 then n else 0 :=
  pixels_some (by rwa [String.toList_ofList, Text.trimChars_of_integer? h])

/-- No text with a point or a mark of an exponent is a whole number. -/
theorem pixels_of_mark {cs : List Char} {c : Char} (hc : c = '.' ∨ c = 'e' ∨ c = 'E')
    (h : c ∈ cs) : pixels (some (String.ofList cs)) = 0 := by
  have hother : Text.isBlank c = false ∧ c.isDigit = false ∧ c ≠ '-' ∧ c ≠ '+' := by
    rcases hc with rfl | rfl | rfl <;> decide
  obtain ⟨hblank, hdigit, hminus, hplus⟩ := hother
  have hread : Text.integer? (Text.trimChars cs) = none :=
    Text.integer?_eq_none (Text.mem_trimChars hblank h) hdigit hminus hplus
  rw [pixels_eq_zero_iff]
  exact .notNumeric (by rwa [String.toList_ofList])

theorem pixels_integer (n : Int) : pixels (some (String.ofList (Number.text (.integer n)))) =
    if -2 ^ 63 ≤ n ∧ n < 2 ^ 63 then n else 0 :=
  pixels_of_integer? (Text.integer?_integer n)

theorem pixels_real (x : Binary64) :
    pixels (some (String.ofList (Number.text (.real x)))) = 0 := by
  rcases mark_mem_text x with hmem | hmem
  · exact pixels_of_mark (.inl rfl) hmem
  · exact pixels_of_mark (.inr (.inl rfl)) hmem

/-- The value of a dimension that is sent so. -/
def dimension? (j : Json) : Option Int := (loose? j).map pixels

variable {cs : List Char} {l : Literal} {j j' : Json}

theorem dimension?_of_sent (hspells : Spells cs l) (h : Sent cs j) :
    dimension? j = some l.pixels := by
  by_cases hpartial : l.fraction ≠ none ∨ l.exponent ≠ none
  · have hzero : l.pixels = 0 := if_neg (by tauto)
    rw [hzero]
    cases h with
    | @number n hread =>
        obtain ⟨x, rfl⟩ := ofLiteral?_partial hpartial (ofLiteral?_of_read? hspells hread)
        exact congrArg some (pixels_real x)
    | string =>
        obtain ⟨c, hc, hmark⟩ := mark_mem_of_spells hspells hpartial
        exact congrArg some (pixels_of_mark hmark hc)
  · obtain ⟨hfraction, hexponent⟩ : l.fraction = none ∧ l.exponent = none := by tauto
    obtain ⟨negative, whole, fraction, exponent⟩ := l
    dsimp only at hfraction hexponent
    subst hfraction hexponent
    simp only [Literal.pixels, true_and]
    set value := Literal.wholeValue ⟨negative, whole, none, none⟩
    cases h with
    | @number n hread =>
        have hvalue := ofLiteral?_whole (ofLiteral?_of_read? hspells hread)
        obtain rfl | ⟨⟨x, rfl⟩, hbeyond⟩ := hvalue
        · exact congrArg some (pixels_integer _)
        · -- A double stands for a number beyond the words or for the negative zero.
          have hzero : (if -2 ^ 63 ≤ value ∧ value < 2 ^ 63 then value else 0) = 0 :=
            ite_eq_right_iff.mpr fun hfits => hbeyond.resolve_right (not_not.mpr hfits)
          rw [hzero]
          exact congrArg some (pixels_real x)
    | string => exact congrArg some (pixels_of_integer? (integer?_of_spells hspells))

theorem respects_requoted : Respects Requoted dimension? := by
  rintro _ _ ⟨hspells, h, h'⟩
  rw [dimension?_of_sent hspells h, dimension?_of_sent hspells h']

/-! ## Candidates -/

/-- A candidate with its dimensions as numbers. -/
structure Measured where
  width : Int
  height : Int
  uri : Option String
  text : Option String

def measured (c : ArtworkCandidate) : Measured := ⟨c.widthPixels, c.heightPixels, c.uri, c.text⟩

open Fields in
def measuredFields : Fields Measured :=
  Measured.mk <$> field "width" dimension? (some 0) <*> field "height" dimension? (some 0)
    <*> nullable "uri" string? <*> nullable "text" string?

def measured? (j : Json) : Option Measured := (ofJson? j).map measured

section Fields

open Fields

theorem ofMembers_dimension (name : String) (members : List (String × Json)) :
    (field name dimension? (some 0)).ofMembers members =
      ((loose name).ofMembers members).map pixels := by
  rw [loose, ofMembers_field, ofMembers_field]
  match valuesOf name members with
  | [] => rfl
  | [_] => rfl
  | _ :: _ :: _ => rfl

theorem ofItems_dimension (name : String) (items : List Json) :
    (field name dimension? (some 0)).ofItems items =
      ((loose name).ofItems items).map (Prod.map pixels id) := by
  cases items with
  | nil => rfl
  | cons j items => simp [field, loose, dimension?, Function.comp_def]

theorem measured?_eq (j : Json) : measured? j = measuredFields.decode? j := by
  cases j with
  | object members =>
      simp only [measured?, ofJson?, decode?, fields, measuredFields, ofMembers_apply,
        ofMembers_map, ofMembers_dimension]
      cases (loose "width").ofMembers members <;> cases (loose "height").ofMembers members <;>
        cases (nullable "uri" string?).ofMembers members <;>
        cases (nullable "text" string?).ofMembers members <;> rfl
  | array items =>
      have hread : measuredFields.ofItems items =
          (fields.ofItems items).map (Prod.map measured id) := by
        simp only [fields, measuredFields, ofItems_apply, ofItems_map, ofItems_dimension,
          Option.map_bind, Option.bind_map, Option.bind_assoc, Option.map_map,
          Function.comp_def, Function.comp_apply]
        rfl
      simp only [measured?, ofJson?, decode?, hread]
      rcases fields.ofItems items with _ | ⟨_, _ | _⟩ <;> rfl
  | _ => rfl

/-- The dimensions are the first two fields. -/
def dimensionKeys : List String := ["width", "height"]

theorem ofMembers_measuredFields {xs ys : List (String × Json)}
    (hdimension : ∀ key ∈ dimensionKeys,
      ValuesAlike false Requoted none (valuesOf key xs) (valuesOf key ys))
    (hother : ∀ key ∉ dimensionKeys, valuesOf key xs = valuesOf key ys) :
    measuredFields.ofMembers xs = measuredFields.ofMembers ys := by
  have hdimension (key : String) (hkey : key ∈ dimensionKeys) :
      (field key dimension? (some 0)).ofMembers xs =
        (field key dimension? (some 0)).ofMembers ys := by
    rw [ofMembers_field, ofMembers_field]
    exact fromValues_alike respects_requoted (by simp) (hdimension key hkey)
  have hother (key : String) (hkey : key ∉ dimensionKeys) :
      (nullable key string?).ofMembers xs = (nullable key string?).ofMembers ys := by
    rw [nullable, ofMembers_field, ofMembers_field, hother key hkey]
  have hwidth := hdimension "width" (by decide)
  have hheight := hdimension "height" (by decide)
  have huri := hother "uri" (by decide)
  have htext := hother "text" (by decide)
  simp only [measuredFields, ofMembers_apply, ofMembers_map, hwidth, hheight, huri, htext]

theorem ofItems_measuredFields {before after : List Json} (h : dimension? j = dimension? j')
    (hplace : before.length < dimensionKeys.length) :
    measuredFields.ofItems (before ++ j :: after) =
      measuredFields.ofItems (before ++ j' :: after) := by
  match before, hplace with
  | [], _ =>
      simp only [List.nil_append, measuredFields, ofItems_apply, ofItems_map, field, h]
  | [first], _ =>
      simp only [List.cons_append, List.nil_append, measuredFields, ofItems_apply, ofItems_map,
        field, Option.map_map, Option.bind_map, Function.comp_def, h]

end Fields

/-- A dimension of a candidate is sent in the other form. -/
inductive Redimensioned : Json → Json → Prop
  | member (before after) {key value value'} (hkey : key ∈ dimensionKeys)
      (h : Requoted value value') :
      Redimensioned (.object (before ++ (key, value) :: after))
        (.object (before ++ (key, value') :: after))
  | item (before after) {value value'} (hplace : before.length < dimensionKeys.length)
      (h : Requoted value value') :
      Redimensioned (.array (before ++ value :: after)) (.array (before ++ value' :: after))

theorem valuesAlike_of_requoted (settled : Bool) (name : String)
    {before after : List (String × Json)} {key : String} (h : Requoted j j') :
    ValuesAlike settled Requoted none (valuesOf name (before ++ (key, j) :: after))
      (valuesOf name (before ++ (key, j') :: after)) := by
  simp only [valuesOf_append, valuesOf_cons]
  split
  next => exact .member _ _ h
  next => exact .refl _

theorem valuesOf_of_ne {name key : String} (hkey : key ≠ name)
    {before after : List (String × Json)} :
    valuesOf name (before ++ (key, j) :: after) = valuesOf name (before ++ (key, j') :: after) := by
  simp only [valuesOf_append, valuesOf_cons, if_neg hkey]

theorem respects_measured? : Respects Redimensioned measured? := by
  intro j j' h
  rw [measured?_eq, measured?_eq]
  cases h with
  | member before after hkey h =>
      apply ofMembers_measuredFields
      · intro name _
        exact valuesAlike_of_requoted false name h
      · intro name hname
        exact valuesOf_of_ne (ne_of_mem_of_not_mem hkey hname)
  | item before after hplace h =>
      simp only [Fields.decode?, ofItems_measuredFields (respects_requoted h) hplace]

theorem respects_measured?_settle : Respects Redimensioned (measured? ·.settle) := by
  intro j j' h
  simp only [measured?_eq]
  cases h with
  | member before after hkey h =>
      apply ofMembers_measuredFields
      · intro name _
        rw [valuesOf_settled, valuesOf_settled]
        exact (valuesAlike_of_requoted true name h).settle (by simp) Requoted.settle
      · intro name hname
        rw [valuesOf_settled, valuesOf_settled,
          valuesOf_of_ne (ne_of_mem_of_not_mem hkey hname)]
  | item before after hplace h =>
      have hsettled := respects_requoted h.settle
      simp only [settle, settleItems_eq_map, List.map_append, List.map_cons, Fields.decode?]
      rw [ofItems_measuredFields hsettled (by rwa [List.length_map])]

theorem usableItems_congr {depth : Nat} {before after : List Json}
    (h : j.usable depth = j'.usable depth) :
    usableItems (before ++ j :: after) depth = usableItems (before ++ j' :: after) depth := by
  rw [Bool.eq_iff_iff, usableItems_iff, usableItems_iff]
  simp only [List.forall_mem_append, List.forall_mem_cons, h]

theorem usableMembers_congr {depth : Nat} {before after : List (String × Json)} {key : String}
    (h : j.usable depth = j'.usable depth) :
    usableMembers (before ++ (key, j) :: after) depth =
      usableMembers (before ++ (key, j') :: after) depth := by
  rw [Bool.eq_iff_iff, usableMembers_iff, usableMembers_iff]
  simp only [List.map_append, List.map_cons, List.forall_mem_append, List.forall_mem_cons, h]

theorem Redimensioned.usable (h : Redimensioned j j') (depth : Nat) :
    j.usable depth = j'.usable depth := by
  cases depth with
  | zero => cases h <;> rfl
  | succ depth =>
      cases h with
      | member _ _ _ h => exact usableMembers_congr (h.usable depth)
      | item _ _ _ h => exact usableItems_congr (h.usable depth)

/-! ## Lists of candidates -/

/-- A dimension of one candidate in a list is sent in the other form. -/
inductive ListRedimensioned : Json → Json → Prop
  | item (before after) {j j'} (h : Redimensioned j j') :
      ListRedimensioned (.array (before ++ j :: after)) (.array (before ++ j' :: after))

theorem candidates?_array (depth : Nat) (items : List Json) :
    (ShowArtwork.candidates? depth (.array items)).map (·.map measured) =
      if Json.usable (.array items) depth
      then some (items.filterMap (measured? ·.settle)) else none := by
  unfold ShowArtwork.candidates?
  split
  next =>
    simp only [settle, settleItems_eq_map, Option.map_some, List.map_filterMap,
      List.filterMap_map]
    rfl
  next => rfl

theorem respects_candidates (depth : Nat) : Respects ListRedimensioned fun j =>
    (ShowArtwork.candidates? depth j).map (·.map measured) := by
  rintro _ _ @⟨before, after, j, j', h⟩
  have husable : Json.usable (.array (before ++ j :: after)) depth =
      Json.usable (.array (before ++ j' :: after)) depth := by
    cases depth with
    | zero => rfl
    | succ depth => exact usableItems_congr (h.usable depth)
  have hmeasured : measured? j.settle = measured? j'.settle := respects_measured?_settle h
  simp only [candidates?_array, husable, List.filterMap_append, List.filterMap_cons, hmeasured]

/-! ## Choices -/

/-- What depends on the candidates but not on the form of their dimensions. -/
structure Alike (cs ds : List ArtworkCandidate) : Prop where
  aspects : cs.map aspect = ds.map aspect
  place : ∀ desired, Artwork.place? desired cs = Artwork.place? desired ds
  selected : ∀ desired,
    (Artwork.select? desired cs).map measured = (Artwork.select? desired ds).map measured
  images : ∀ base, ProgramImages.choose base cs = ProgramImages.choose base ds

variable {c d : ArtworkCandidate} {cs ds : List ArtworkCandidate} {desired : Binary64}

theorem aspect_congr (h : c.measured = d.measured) : c.aspect = d.aspect := by
  obtain ⟨hwidth, hheight, -, -⟩ := Measured.mk.inj h
  unfold aspect
  rw [hwidth, hheight]

theorem rank_congr (h : c.measured = d.measured) : c.rank desired = d.rank desired := by
  obtain ⟨-, hheight, -, -⟩ := Measured.mk.inj h
  unfold rank
  rw [aspect_congr h, hheight]

theorem exists_measured (h : cs.map measured = ds.map measured) (hd : d ∈ ds) :
    ∃ c ∈ cs, c.measured = d.measured := by
  rw [← List.mem_map, h]
  exact List.mem_map_of_mem hd

theorem optimum_congr {place : Nat} (h : cs.map measured = ds.map measured)
    (hc : Artwork.Optimum desired cs place c) :
    ∃ d, Artwork.Optimum desired ds place d ∧ c.measured = d.measured := by
  obtain ⟨hget, hleast, hfirst⟩ := hc
  have hplace : (ds.map measured)[place]? = some c.measured := by
    rw [← h, List.getElem?_map, hget, Option.map_some]
  rw [List.getElem?_map, Option.map_eq_some_iff] at hplace
  obtain ⟨d, hd, hsame⟩ := hplace
  refine ⟨d, ⟨hd, ?_, ?_⟩, hsame.symm⟩
  -- Every rank of the one list occurs in the other.
  · intro other hother
    obtain ⟨c', hc', heq⟩ := exists_measured h hother
    rw [rank_congr hsame, ← rank_congr heq]
    exact hleast c' hc'
  · intro other hother
    have htake : (cs.take place).map measured = (ds.take place).map measured := by
      rw [List.map_take, List.map_take, h]
    obtain ⟨c', hc', heq⟩ := exists_measured htake hother
    rw [rank_congr hsame, ← rank_congr heq]
    exact hfirst c' hc'

theorem place?_congr (h : cs.map measured = ds.map measured) :
    Artwork.place? desired cs = Artwork.place? desired ds := by
  have himp {cs ds : List ArtworkCandidate} (h : cs.map measured = ds.map measured)
      {place : Nat} (hplace : Artwork.place? desired cs = some place) :
      Artwork.place? desired ds = some place := by
    obtain ⟨c, hc⟩ := Artwork.place?_eq_some_iff.mp hplace
    obtain ⟨d, hd, -⟩ := optimum_congr h hc
    exact Artwork.place?_eq_some_iff.mpr ⟨d, hd⟩
  apply Option.ext
  intro place
  exact ⟨himp h, himp h.symm⟩

theorem select?_congr (h : cs.map measured = ds.map measured) :
    (Artwork.select? desired cs).map measured = (Artwork.select? desired ds).map measured := by
  cases hselected : Artwork.select? desired cs with
  | none =>
      rw [Artwork.select?_eq_none_iff] at hselected
      subst hselected
      obtain rfl : ds = [] := List.map_eq_nil_iff.mp h.symm
      rfl
  | some c =>
      obtain ⟨place, hc⟩ := Artwork.select?_eq_some_iff_optimum.mp hselected
      obtain ⟨d, hd, hsame⟩ := optimum_congr h hc
      rw [Artwork.select?_eq_some_iff_optimum.mpr ⟨place, hd⟩, Option.map_some, Option.map_some,
        hsame]

theorem filter_hasText?_congr (answer : Option Bool) (h : cs.map measured = ds.map measured) :
    (cs.filter (·.hasText? == answer)).map measured =
      (ds.filter (·.hasText? == answer)).map measured := by
  have hfilter (cs : List ArtworkCandidate) : (cs.filter (·.hasText? == answer)).map measured =
      (cs.map measured).filter fun m => hasText? ⟨none, none, none, m.text⟩ == answer := by
    rw [List.filter_map]
    rfl
  rw [hfilter, hfilter, h]

theorem chosen_congr (base : String) (h : cs.map measured = ds.map measured) :
    (Artwork.select? desired cs).bind (ProgramImages.location? base) =
      (Artwork.select? desired ds).bind (ProgramImages.location? base) := by
  have hchosen (chosen : Option ArtworkCandidate) : chosen.bind (ProgramImages.location? base) =
      (chosen.map measured).bind fun m => (m.uri.bind Text.nonBlank?).map (Address.image base) := by
    rw [Option.bind_map]
    rfl
  rw [hchosen, hchosen, select?_congr h]

theorem alike_of_measured (h : cs.map measured = ds.map measured) : Alike cs ds where
  aspects := by
    rw [← List.forall₂_eq_eq_eq, List.forall₂_map_left_iff, List.forall₂_map_right_iff] at h ⊢
    exact h.imp fun _ _ => aspect_congr
  place _ := place?_congr h
  selected _ := select?_congr h
  images base := by
    have hyes := filter_hasText?_congr (some true) h
    have hno := filter_hasText?_congr (some false) h
    unfold ProgramImages.choose
    simp only [chosen_congr base h, chosen_congr base hyes, chosen_congr base hno]

/-! ## Dimensions of candidates -/

inductive Gives (key : String) (place : Nat) (dimension : Json) : Json → Prop
  | member {members} (h : valuesOf key members = [dimension]) :
      Gives key place dimension (.object members)
  | item {items} (h : items[place]? = some dimension) : Gives key place dimension (.array items)

theorem pixels_of_members {members : List (String × Json)}
    (h : measuredFields.ofMembers members = some c.measured) :
    Fields.fromValues dimension? (some 0) (valuesOf "width" members) = some c.widthPixels ∧
      Fields.fromValues dimension? (some 0) (valuesOf "height" members) = some c.heightPixels := by
  simp only [measuredFields, Fields.ofMembers_apply, Fields.ofMembers_map,
    Fields.ofMembers_field, Option.bind_eq_some_iff, Option.map_eq_some_iff] at h
  obtain ⟨_, ⟨_, ⟨_, ⟨width, hwidth, rfl⟩, height, hheight, rfl⟩, _, _, rfl⟩, _, _, heq⟩ := h
  obtain ⟨rfl, rfl, -, -⟩ := Measured.mk.inj heq
  exact ⟨hwidth, hheight⟩

theorem ofItems_field (name : String) (items : List Json) :
    (Fields.field name dimension? (some 0)).ofItems items =
      (items[0]?.elim (some 0) dimension?).map (·, items.tail) := by
  cases items <;> rfl

theorem pixels_of_items {items rest : List Json}
    (h : measuredFields.ofItems items = some (c.measured, rest)) :
    items[0]?.elim (some 0) dimension? = some c.widthPixels ∧
      items[1]?.elim (some 0) dimension? = some c.heightPixels := by
  simp only [measuredFields, Fields.ofItems_apply, Fields.ofItems_map, ofItems_field,
    Option.bind_eq_some_iff, Option.map_eq_some_iff] at h
  obtain ⟨_, ⟨_, ⟨_, ⟨_, ⟨width, hwidth, rfl⟩, rfl⟩, _, ⟨height, hheight, rfl⟩, rfl⟩, _, _, rfl⟩,
    _, _, heq⟩ := h
  obtain ⟨rfl, rfl, -, -⟩ := Measured.mk.inj (congrArg Prod.fst heq)
  rw [List.getElem?_tail] at hheight
  exact ⟨hwidth, hheight⟩

theorem pixels_of_gives {candidate : Json} (hread : ofJson? candidate = some c) :
    (Gives "width" 0 j candidate → dimension? j = some c.widthPixels) ∧
      (Gives "height" 1 j candidate → dimension? j = some c.heightPixels) := by
  have hmeasured : measuredFields.decode? candidate = some c.measured := by
    rw [← measured?_eq, measured?, hread, Option.map_some]
  cases candidate with
  | object members =>
      obtain ⟨hwidth, hheight⟩ := pixels_of_members hmeasured
      constructor
      · rintro ⟨h⟩
        rwa [h] at hwidth
      · rintro ⟨h⟩
        rwa [h] at hheight
  | array items =>
      simp only [Fields.decode?] at hmeasured
      split at hmeasured
      next hitems =>
        cases hmeasured
        obtain ⟨hwidth, hheight⟩ := pixels_of_items hitems
        constructor
        · rintro (_ | h)
          rwa [h] at hwidth
        · rintro (_ | h)
          rwa [h] at hheight
      next => cases hmeasured
  | _ => cases hmeasured

end ArtworkCandidate

open Json.Number ArtworkCandidate in
/-- A dimension counts as the same in either form, as a number or as a string; so lists of
candidates that are equal but for such forms are alike. -/
theorem alike_of_requoted :
    (∀ cs negative whole, Spells cs ⟨negative, whole, none, none⟩ →
      whole.length ≤ safeLength → ∃ n, Sent cs (.number n)) ∧
    (∀ cs l dimension, Spells cs l → Sent cs dimension → ∀ candidate c,
      ofJson? candidate = some c →
        (Gives "width" 0 dimension candidate → c.widthPixels = l.pixels) ∧
        (Gives "height" 1 dimension candidate → c.heightPixels = l.pixels)) ∧
    (∀ j j', Relation.EqvGen Redimensioned j j' →
      (ofJson? j).map measured = (ofJson? j').map measured) ∧
    ∀ depth j j', Relation.EqvGen ListRedimensioned j j' →
      Option.Rel Alike (ShowArtwork.candidates? depth j)
        (ShowArtwork.candidates? depth j') := by
  refine ⟨?_, ?_, fun j j' h => respects_measured?.eqvGen h, ?_⟩
  · intro cs negative whole hspells hlength
    obtain ⟨n, hread⟩ := exists_read?_of_spells hspells hlength
    exact ⟨n, .number hread⟩
  · intro cs l dimension hspells hsent candidate c hread
    have hdimension := dimension?_of_sent hspells hsent
    obtain ⟨hwidth, hheight⟩ := pixels_of_gives (j := dimension) hread
    constructor
    · intro hgives
      exact Option.some.inj ((hwidth hgives).symm.trans hdimension)
    · intro hgives
      exact Option.some.inj ((hheight hgives).symm.trans hdimension)
  · intro depth j j' h
    have hmeasured := (respects_candidates depth).eqvGen h
    generalize ShowArtwork.candidates? depth j = read,
      ShowArtwork.candidates? depth j' = read' at hmeasured
    match read, read', hmeasured with
    | none, none, _ => exact .none
    | some cs, some ds, hmeasured => exact .some (alike_of_measured (Option.some.inj hmeasured))

/-! ## A number beyond the words -/

namespace Beyond

open Json.Number ArtworkCandidate

/-- The least number beyond the unsigned words. -/
def digits : List Char := "18446744073709551616".toList

def literal : Number.Literal := ⟨false, digits, none, none⟩

/-- As a double it is written with an exponent. -/
def number : Json := .number (.real ⟨false, 1087 * 2 ^ 52⟩)

theorem spells : Spells digits literal := by
  have hwhole : Whole digits := ⟨⟨by decide, List.all_eq_true.mp (by decide)⟩, by decide⟩
  exact @Spells.literal false digits [] none [] none hwhole .none .none

theorem sent : Sent digits number := by
  apply Sent.number
  have hvalue : ofLiteral? literal = some (.real ⟨false, 1087 * 2 ^ 52⟩) := by decide +kernel
  rw [read?_of_spells spells, hvalue]

def candidate (width : Json) : Json := .object [("width", width), ("height", .string "3")]

theorem redimensioned :
    Redimensioned (candidate number) (candidate (.string (String.ofList digits))) :=
  .member [] [("height", .string "3")] (by decide) (.literal spells sent .string)

end Beyond

open Beyond Json.Number ArtworkCandidate in
theorem alike_of_requoted_beyond_words :
    (∃ n, Sent digits (.number n)) ∧
      (∃ c, ofJson? (candidate number) = some c ∧ c.widthPixels = 0) ∧
      (ofJson? (candidate number)).map measured =
        (ofJson? (candidate (.string (String.ofList digits)))).map measured ∧
      Option.Rel Alike (ShowArtwork.candidates? 125 (.array [candidate number]))
        (ShowArtwork.candidates? 125 (.array [candidate (.string (String.ofList digits))])) := by
  have hread : ofJson? (candidate number) =
      some ⟨some "1.8446744073709552e+19", some "3", none, none⟩ := by decide +kernel
  refine ⟨?_, ⟨_, hread, ?_⟩, ?_, ?_⟩
  · exact alike_of_requoted.1 _ _ _ spells (by decide)
  · have hwidth := (alike_of_requoted.2.1 _ _ _ spells sent _ _ hread).1 (.member rfl)
    rw [hwidth]
    decide
  · exact alike_of_requoted.2.2.1 _ _ (.rel _ _ redimensioned)
  · exact alike_of_requoted.2.2.2 _ _ _ (.rel _ _ (.item [] [] redimensioned))

end ProgramGuide
