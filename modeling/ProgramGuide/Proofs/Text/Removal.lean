import ProgramGuide.Proofs.Text.Bytes
import ProgramGuide.Proofs.Text.Search
import ProgramGuide.Text.Case

/-!
# Marks taken out of a text

A mark without a border does not overlap itself, so the places where it stands in a text,
in whatever case, part the text in one way only, and taking the marks out leaves the
pieces between them.  The places may be found in a copy in lower case and cut by bytes in
the text itself: folding a letter keeps its bytes.
-/

namespace ProgramGuide.Text

/-- No stretch but the whole stands both at the start and at the end. -/
def Unbordered (mark : List Char) : Prop :=
  ∀ k < mark.length, 0 < k → mark.take k ≠ mark.drop (mark.length - k)

instance (mark : List Char) : Decidable (Unbordered mark) :=
  inferInstanceAs (Decidable (∀ k < mark.length, 0 < k →
    mark.take k ≠ mark.drop (mark.length - k)))

/-- The text is pieces without the mark and marks, in any case, between them; the pieces
alone are what is kept. -/
inductive Parted (mark : List Char) : List Char → List Char → Prop
  | last {piece} (hpiece : ¬foldCase mark <:+: foldCase piece) : Parted mark piece piece
  | mark {piece marked rest kept} (hpiece : ¬foldCase mark <:+: foldCase piece)
      (hmarked : foldCase marked = foldCase mark) (h : Parted mark rest kept) :
      Parted mark (piece ++ (marked ++ rest)) (piece ++ kept)

variable {mark : List Char}

@[simp] theorem foldCase_append (a b : List Char) :
    foldCase (a ++ b) = foldCase a ++ foldCase b := List.map_append

theorem Unbordered.eq_of_border (hmark : Unbordered mark) {border : List Char}
    (hne : border ≠ []) (hstart : border <+: mark) (hend : border <:+ mark) :
    border = mark := by
  by_contra hproper
  have hlength : border.length < mark.length :=
    Nat.lt_of_le_of_ne hstart.length_le fun h => hproper (hstart.eq_of_length h)
  apply hmark border.length hlength (List.length_pos_iff.mpr hne)
  rw [← List.prefix_iff_eq_take.mp hstart, ← List.suffix_iff_eq_drop.mp hend]

/-- In front of the rest, no mark starts within the piece. -/
def Clear (mark piece rest : List Char) : Prop :=
  ∀ t, t ≠ [] → t <:+ piece → ¬foldCase mark <+: foldCase (t ++ rest)

theorem clear_of_free (hmark : Unbordered (foldCase mark)) {piece rest : List Char}
    (hpiece : ¬foldCase mark <:+: foldCase piece)
    (hrest : rest = [] ∨ foldCase mark <+: foldCase rest) : Clear mark piece rest := by
  intro t hne ht hstarts
  rw [foldCase_append] at hstarts
  have hfront := List.prefix_append (foldCase t) (foldCase rest)
  by_cases hlength : (foldCase mark).length ≤ (foldCase t).length
  · have hwithin := List.prefix_of_prefix_length_le hstarts hfront hlength
    exact hpiece (hwithin.isInfix.trans (ht.map Char.toLower).isInfix)
  · -- The mark runs past the end of the piece, so its end is the start of what follows.
    obtain ⟨behind, hbehind⟩ := List.prefix_of_prefix_length_le hfront hstarts (by omega)
    rw [← hbehind, List.prefix_append_right_inj] at hstarts
    rw [← hbehind, List.length_append] at hlength
    have hnonempty : behind ≠ [] := by
      rintro rfl
      simp at hlength
    cases hrest with
    | inl hnil =>
        subst hnil
        exact hnonempty (List.prefix_nil.mp hstarts)
    | inr hfollows =>
        have hborder : behind <+: foldCase mark :=
          List.prefix_of_prefix_length_le hstarts hfollows (by simp [← hbehind])
        have hwhole := hmark.eq_of_border hnonempty hborder ⟨foldCase t, hbehind⟩
        rw [hwhole, List.append_left_eq_self] at hbehind
        exact hne (by simpa [foldCase] using hbehind)

theorem Parted.append_mark {a b kept kept' marked : List Char} (ha : Parted mark a kept)
    (hmarked : foldCase marked = foldCase mark) (hb : Parted mark b kept') :
    Parted mark (a ++ (marked ++ b)) (kept ++ kept') := by
  induction ha with
  | last hpiece => exact .mark hpiece hmarked hb
  | mark hpiece hfirst _ ih =>
      simpa using Parted.mark hpiece hfirst ih

theorem exists_parted (hne : mark ≠ []) (text : List Char) :
    ∃ kept, Parted mark text kept := by
  induction hlength : text.length using Nat.strong_induction_on generalizing text with
  | _ length ih =>
      by_cases hfree : foldCase mark <:+: foldCase text
      · obtain ⟨before, behind, hsplit⟩ := hfree
        obtain ⟨front, b, rfl, hfront, -⟩ := List.map_eq_append_iff.mp hsplit.symm
        obtain ⟨a, marked, rfl, -, hmarked⟩ := List.map_eq_append_iff.mp hfront
        have hpos : 0 < marked.length := by
          have hwidth := congrArg List.length hmarked
          have hmark := List.length_pos_iff.mpr hne
          simp only [foldCase, List.length_map] at hwidth
          omega
        simp only [List.length_append] at hlength
        obtain ⟨kept, ha⟩ := ih a.length (by omega) a rfl
        obtain ⟨kept', hb⟩ := ih b.length (by omega) b rfl
        refine ⟨kept ++ kept', ?_⟩
        rw [List.append_assoc]
        exact ha.append_mark hmarked hb
      · exact ⟨text, .last hfree⟩

/-! ## Removal -/

theorem removeIgnoringCase_append {piece rest : List Char} (h : Clear mark piece rest) :
    removeIgnoringCase mark (piece ++ rest) = piece ++ removeIgnoringCase mark rest := by
  apply replaceWhere_append
  intro t hne ht
  rw [← Bool.not_eq_true, List.isPrefixOf_iff_prefix]
  exact h t hne ht

theorem removeIgnoringCase_marked (hne : mark ≠ []) {marked : List Char}
    (hmarked : foldCase marked = foldCase mark) (rest : List Char) :
    removeIgnoringCase mark (marked ++ rest) = removeIgnoringCase mark rest := by
  have hlength : marked.length = mark.length := by
    simpa [foldCase] using congrArg List.length hmarked
  have hpos := List.length_pos_iff.mpr hne
  have hstarts : foldCase mark <+: foldCase (marked ++ rest) := by simp [hmarked]
  unfold removeIgnoringCase
  rw [replaceWhere_of_hit ?_ hpos ?_, ← hlength, List.drop_left, List.nil_append]
  · rintro hnil
    simp [(List.append_eq_nil_iff.mp hnil).1] at hlength
    omega
  · exact List.isPrefixOf_iff_prefix.mpr hstarts

theorem removeIgnoringCase_of_parted (hmark : Unbordered (foldCase mark)) (hne : mark ≠ [])
    {text kept : List Char} (h : Parted mark text kept) :
    removeIgnoringCase mark text = kept := by
  induction h with
  | @last piece hpiece =>
      have hskip := removeIgnoringCase_append (clear_of_free hmark hpiece (.inl rfl))
      simpa [removeIgnoringCase] using hskip
  | @mark piece marked rest kept hpiece hmarked _ ih =>
      have hstarts : foldCase mark <+: foldCase (marked ++ rest) := by simp [hmarked]
      rw [removeIgnoringCase_append (clear_of_free hmark hpiece (.inr hstarts)),
        removeIgnoringCase_marked hne hmarked, ih]

/-! ## Removal by bytes -/

/-- The bytes from `start` on and before `stop`; nothing unless both are in the text, in
this order, and between two characters. -/
def sliceBytes? (start stop : Nat) (cs : List Char) : Option (List Char) :=
  if start ≤ stop then
    (takeBytes? start cs).bind fun before =>
      takeBytes? (stop - start) (cs.drop before.length)
  else none

theorem sliceBytes?_append (a b c : List Char) :
    sliceBytes? (byteLength a) (byteLength a + byteLength b) (a ++ (b ++ c)) = some b := by
  have ha : takeBytes? (byteLength a) (a ++ (b ++ c)) = some a :=
    takeBytes?_eq_some_iff.mpr ⟨List.prefix_append a _, rfl⟩
  have hb : takeBytes? (byteLength b) (b ++ c) = some b :=
    takeBytes?_eq_some_iff.mpr ⟨List.prefix_append b c, rfl⟩
  simp [sliceBytes?, ha, hb]

/-- The bytes at which the mark stands, from the left and without overlap.  The text
starts at byte `offset`, and `passing` characters of it are still to be passed. -/
def positions (mark : List Char) : Nat → Nat → List Char → List Nat
  | _, _, [] => []
  | passing + 1, offset, c :: cs => positions mark passing (offset + c.utf8Size) cs
  | 0, offset, c :: cs =>
      if mark.isPrefixOf (c :: cs) then
        offset :: positions mark (mark.length - 1) (offset + c.utf8Size) cs
      else positions mark 0 (offset + c.utf8Size) cs

theorem positions_append (piece rest : List Char) (offset : Nat)
    (h : ∀ t, t ≠ [] → t <:+ piece → ¬mark <+: t ++ rest) :
    positions mark 0 offset (piece ++ rest) =
      positions mark 0 (offset + byteLength piece) rest := by
  induction piece generalizing offset with
  | nil => simp
  | cons c piece ih =>
      have hc := h (c :: piece) (by simp) List.suffix_rfl
      rw [← List.isPrefixOf_iff_prefix, List.cons_append] at hc
      rw [List.cons_append, positions, if_neg hc,
        ih _ fun t hne ht => h t hne (ht.trans (List.suffix_cons c piece)), byteLength_cons,
        Nat.add_assoc]

theorem positions_passing (passed rest : List Char) (offset : Nat) :
    positions mark passed.length offset (passed ++ rest) =
      positions mark 0 (offset + byteLength passed) rest := by
  induction passed generalizing offset with
  | nil => simp
  | cons c passed ih => simp [positions, ih, Nat.add_assoc]

theorem positions_marked (hne : mark ≠ []) (rest : List Char) (offset : Nat) :
    positions mark 0 offset (mark ++ rest) =
      offset :: positions mark 0 (offset + byteLength mark) rest := by
  cases mark with
  | nil => exact absurd rfl hne
  | cons c mark =>
      have hstarts : (c :: mark).isPrefixOf (c :: (mark ++ rest)) = true := by simp
      rw [List.cons_append, positions, if_pos hstarts]
      simp [positions_passing, Nat.add_assoc]

/-- The bytes of a text before, between and behind stretches of `width` bytes at some
positions, as far as they come at or after `start`. -/
def sliceAround? (width : Nat) (text : List Char) : Nat → List Nat → Option (List Char)
  | start, [] => sliceBytes? start (byteLength text) text
  | start, stop :: stops => do
      let piece ← sliceBytes? start stop text
      let rest ← sliceAround? width text (stop + width) stops
      return piece ++ rest

/-- Takes the marks out of a text at the bytes at which they stand in its copy in lower
case. -/
def removeByBytes? (mark text : List Char) : Option (List Char) :=
  sliceAround? (byteLength mark) text 0 (positions (foldCase mark) 0 0 (foldCase text))

/-- A capital letter and its small one both take one byte. -/
theorem utf8Size_toLower (c : Char) : c.toLower.utf8Size = c.utf8Size := by
  obtain h | ⟨hfirst, hlower⟩ := eq_or_before_of_toLower (Eq.refl c.toLower)
  · rw [← h]
  · have hlast : c.toNat ≤ 90 := by
      by_contra hlast
      have hsame : c.toLower = c := by
        unfold Char.toLower
        rw [dif_neg]
        rintro ⟨-, hle⟩
        exact hlast (UInt32.le_iff_toNat_le.mp hle)
      rw [hsame] at hlower
      omega
    rw [utf8Size_of_ascii (by omega), utf8Size_of_ascii (by omega)]

theorem byteLength_foldCase (cs : List Char) : byteLength (foldCase cs) = byteLength cs := by
  induction cs with
  | nil => rfl
  | cons c cs ih => simpa [foldCase, utf8Size_toLower] using ih

theorem sliceAround?_of_parted (hmark : Unbordered (foldCase mark)) (hne : mark ≠ [])
    {text kept : List Char} (h : Parted mark text kept) (before : List Char) :
    sliceAround? (byteLength mark) (before ++ text) (byteLength before)
      (positions (foldCase mark) 0 (byteLength before) (foldCase text)) = some kept := by
  have hmiss {piece rest : List Char} (hclear : Clear mark piece rest) :
      ∀ t, t ≠ [] → t <:+ foldCase piece → ¬foldCase mark <+: t ++ foldCase rest := by
    intro t hnil ht
    obtain ⟨t, hsuffix, rfl⟩ := List.suffix_map_iff.mp ht
    rw [← foldCase, ← foldCase_append]
    exact hclear t (by simpa using hnil) hsuffix
  induction h generalizing before with
  | @last piece hpiece =>
      have hnone := positions_append _ _ (byteLength before)
        (hmiss (clear_of_free hmark hpiece (.inl rfl)))
      have hslice := sliceBytes?_append before piece []
      simp only [foldCase, List.map_nil, List.append_nil] at hnone hslice
      simp [hnone, foldCase, positions, sliceAround?, hslice]
  | @mark piece marked rest kept hpiece hmarked _ ih =>
      have hstarts : foldCase mark <+: foldCase (marked ++ rest) := by simp [hmarked]
      have hwidth : byteLength marked = byteLength mark := by
        rw [← byteLength_foldCase, hmarked, byteLength_foldCase]
      have hfold : foldCase mark ≠ [] := by simpa [foldCase] using hne
      have hrest := ih (before ++ (piece ++ marked))
      have hslice := sliceBytes?_append before piece (marked ++ rest)
      have hclear := clear_of_free hmark hpiece (.inr hstarts)
      rw [foldCase_append, positions_append _ _ _ (hmiss hclear), foldCase_append, hmarked,
        positions_marked hfold]
      simp only [byteLength_foldCase, byteLength_append, hwidth, List.append_assoc,
        ← Nat.add_assoc] at hrest ⊢
      simp [sliceAround?, hslice, hrest]

theorem removeByBytes?_of_parted (hmark : Unbordered (foldCase mark)) (hne : mark ≠ [])
    {text kept : List Char} (h : Parted mark text kept) :
    removeByBytes? mark text = some kept :=
  sliceAround?_of_parted hmark hne h []

end ProgramGuide.Text
