import Mathlib.Data.List.Forall2
import ProgramGuide.Json.Reader
import ProgramGuide.Json.Writer

/-!
# Reading what was written

Text in arrays and objects is read back as it was written, whatever characters it has: the
writer escapes what would end a string, and the tokens of a value put it together again.
-/

namespace ProgramGuide.Json

/-! ## Strings -/

/-- A character comes back as itself, or as the code of a control. -/
inductive Stands : Char → Piece → Prop
  | char (c : Char) : Stands c (.char c)
  | unit {c : Char} (h : c.toNat < 0x20) : Stands c (.unit c.toNat)

theorem paddedHex_control {n : Nat} (h : n < 0x20) :
    ∃ a b, Text.paddedHex 4 n = ['0', '0', a, b] ∧
      Text.ofHexDigits? ['0', '0', a, b] = some n := by
  have hdigits : ∀ n < 0x20,
      (Text.paddedHex 4 n).length = 4 ∧ (Text.paddedHex 4 n).take 2 = ['0', '0'] ∧
        Text.ofHexDigits? (Text.paddedHex 4 n) = some n := by decide
  obtain ⟨hlength, hzeros, hvalue⟩ := hdigits n h
  match hpadded : Text.paddedHex 4 n, hlength with
  | [z, z', a, b], _ =>
      rw [hpadded] at hzeros hvalue
      obtain ⟨rfl, rfl⟩ : z = '0' ∧ z' = '0' := by simpa using hzeros
      exact ⟨a, b, rfl, hvalue⟩

section Pieces

variable {c e : Char} (rest : List Char)

theorem pieces?_escaped (h : escaped? e = some c) :
    pieces? ('\\' :: e :: rest) =
      (pieces? rest).map fun p => (.char c :: p.1, p.2 + 2) := by
  rw [pieces?.eq_def]
  split
  case h_1 heq => cases heq
  case h_2 heq => cases heq
  case h_3 heq =>
    cases heq
    cases h
  case h_4 heq =>
    cases heq
    simp only [h, Option.bind_eq_bind, Option.bind_some]
    cases pieces? rest <;> rfl
  case h_5 hother heq =>
    cases heq
    exact absurd rfl (hother e rest rfl)

theorem pieces?_plain (hcontrol : ¬c.toNat < 0x20) (hquote : c ≠ '"') (hslash : c ≠ '\\') :
    pieces? (c :: rest) = (pieces? rest).map fun p => (.char c :: p.1, p.2 + 1) := by
  rw [pieces?.eq_def]
  split
  case h_1 heq => cases heq
  case h_2 heq =>
    cases heq
    exact absurd rfl hquote
  case h_3 heq | h_4 heq =>
    cases heq
    exact absurd rfl hslash
  case h_5 heq =>
    cases heq
    rw [if_neg (by simp [hcontrol, hslash])]
    cases pieces? rest <;> rfl

theorem pieces?_escape (c : Char) :
    ∃ piece, Stands c piece ∧ pieces? (escape c ++ rest) =
      (pieces? rest).map fun p => (piece :: p.1, p.2 + (escape c).length) := by
  unfold escape
  split
  case h_8 hquote hslash _ _ _ _ _ =>
    split
    next hcontrol =>
      obtain ⟨a, b, hpadded, hvalue⟩ := paddedHex_control hcontrol
      refine ⟨_, .unit hcontrol, ?_⟩
      rw [hpadded]
      simp only [List.cons_append, List.nil_append, pieces?, hvalue]
      cases pieces? rest <;> rfl
    next hcontrol =>
      exact ⟨_, .char c, pieces?_plain rest hcontrol hquote hslash⟩
  all_goals exact ⟨_, .char _, pieces?_escaped rest rfl⟩

theorem pieces?_quoted (cs : List Char) :
    ∃ pieces, List.Forall₂ Stands cs pieces ∧
      pieces? (cs.flatMap escape ++ '"' :: rest) =
        some (pieces, (cs.flatMap escape).length + 1) := by
  induction cs with
  | nil => exact ⟨[], .nil, rfl⟩
  | cons c cs ih =>
      obtain ⟨pieces, hpieces, hread⟩ := ih
      obtain ⟨piece, hpiece, hescape⟩ :=
        pieces?_escape (cs.flatMap escape ++ '"' :: rest) c
      refine ⟨piece :: pieces, .cons hpiece hpieces, ?_⟩
      rw [List.flatMap_cons, List.append_assoc, hescape, hread]
      simp only [Option.map_some, List.length_append]
      congr 2
      omega

end Pieces

theorem joinPieces_control {n : Nat} (h : n < 0x20) (pieces : List Piece) :
    joinPieces (.unit n :: pieces) = (joinPieces pieces).map (Char.ofNat n :: ·) := by
  have hhigh : isHighSurrogate n = false := by
    simp only [isHighSurrogate, Bool.and_eq_false_imp, decide_eq_true_eq, decide_eq_false_iff_not]
    omega
  have hlow : isLowSurrogate n = false := by
    simp only [isLowSurrogate, Bool.and_eq_false_imp, decide_eq_true_eq, decide_eq_false_iff_not]
    omega
  cases pieces with
  | nil => simp [joinPieces, hhigh, hlow]
  | cons piece rest =>
      cases piece <;> simp [joinPieces, hhigh, hlow]

theorem joinPieces_of_stands {cs : List Char} {pieces : List Piece}
    (h : List.Forall₂ Stands cs pieces) : joinPieces pieces = some cs := by
  induction h with
  | nil => rfl
  | @cons c piece cs pieces hpiece _ ih =>
      cases hpiece with
      | char => simp [joinPieces, ih]
      | unit hcontrol => simp [joinPieces_control hcontrol, ih]

/-! ## Tokens -/

mutual

/-- The tokens that a value of text, arrays and objects is written with. -/
def tokensOf : Json → List Token
  | .string s => [.string (some s)]
  | .array items => .openArray :: itemTokens items ++ [.closeArray]
  | .object members => .openObject :: memberTokens members ++ [.closeObject]
  | _ => []

def itemTokens : List Json → List Token
  | [] => []
  | [j] => tokensOf j
  | j :: rest => tokensOf j ++ .comma :: itemTokens rest

def memberTokens : List (String × Json) → List Token
  | [] => []
  | [(k, v)] => .string (some k) :: .colon :: tokensOf v
  | (k, v) :: rest => .string (some k) :: .colon :: tokensOf v ++ .comma :: memberTokens rest

end

/-- There is only text in the arrays and objects of a value. -/
inductive Textual : Json → Prop
  | string (s : String) : Textual (.string s)
  | array {items} (h : ∀ j ∈ items, Textual j) : Textual (.array items)
  | object {members} (h : ∀ m ∈ members, Textual m.2) : Textual (.object members)

theorem textual_strings (texts : List String) : (list .string texts).Textual := by
  apply Textual.array
  intro j hj
  obtain ⟨text, -, rfl⟩ := List.mem_map.mp hj
  exact .string text

def CutInto (ts : List Token) (cs : List Char) : Prop :=
  ∀ found rest, reversedTokens 0 found (cs ++ rest) =
    reversedTokens 0 (ts.reverse ++ found) rest

theorem reversedTokens_passing (found : List Token) (passed rest : List Char) :
    reversedTokens passed.length found (passed ++ rest) = reversedTokens 0 found rest := by
  induction passed with
  | nil => rfl
  | cons c cs ih => exact ih

theorem cutInto_nil : CutInto [] [] := fun _ _ => rfl

theorem CutInto.append {ts us : List Token} {cs ds : List Char} (h : CutInto ts cs)
    (h' : CutInto us ds) : CutInto (ts ++ us) (cs ++ ds) := by
  intro found rest
  rw [List.append_assoc, h, h', List.reverse_append, List.append_assoc]

theorem CutInto.cons {t : Token} {ts : List Token} {c : Char} {cs : List Char}
    (h : CutInto [t] [c]) (h' : CutInto ts cs) : CutInto (t :: ts) (c :: cs) :=
  h.append h'

/-- A mark is a token of its own. -/
theorem cutInto_mark {t : Token} {c : Char} (hspace : isSpace c = false)
    (h : ∀ cs, token? c cs = some (t, 1)) : CutInto [t] [c] := by
  intro found rest
  simp [reversedTokens, hspace, h]

theorem cutInto_quote (s : String) : CutInto [.string (some s)] (quote s) := by
  intro found rest
  obtain ⟨pieces, hpieces, hread⟩ := pieces?_quoted rest s.toList
  have htoken : token? '"' (s.toList.flatMap escape ++ '"' :: rest) =
      some (.string (some s), (s.toList.flatMap escape).length + 2) := by
    simp [token?, hread, joinPieces_of_stands hpieces]
  have hpassed := reversedTokens_passing (.string (some s) :: found)
    (s.toList.flatMap escape ++ ['"']) rest
  rw [List.append_assoc, List.length_append] at hpassed
  simp only [quote, List.cons_append, List.append_assoc, List.nil_append]
  rw [reversedTokens, if_neg (by decide), htoken]
  exact hpassed

theorem cutInto_items {items : List Json}
    (h : ∀ j ∈ items, CutInto (tokensOf j) (compact j)) :
    CutInto (itemTokens items) (compactItems items) := by
  induction items with
  | nil => exact cutInto_nil
  | cons j rest ih =>
      cases rest with
      | nil => exact h j (by simp)
      | cons j' rest =>
          have hrest := ih fun i hi => h i (List.mem_cons_of_mem j hi)
          have hcomma : CutInto [.comma] [','] := cutInto_mark rfl fun _ => rfl
          exact (h j (by simp)).append (hcomma.cons hrest)

theorem cutInto_members {members : List (String × Json)}
    (h : ∀ m ∈ members, CutInto (tokensOf m.2) (compact m.2)) :
    CutInto (memberTokens members) (compactMembers members) := by
  have hcolon : CutInto [.colon] [':'] := cutInto_mark rfl fun _ => rfl
  have hcomma : CutInto [.comma] [','] := cutInto_mark rfl fun _ => rfl
  induction members with
  | nil => exact cutInto_nil
  | cons m rest ih =>
      obtain ⟨k, v⟩ := m
      have hmember := (cutInto_quote k).append (hcolon.cons (h (k, v) (by simp)))
      cases rest with
      | nil => exact hmember
      | cons m' rest =>
          have hrest := ih fun i hi => h i (List.mem_cons_of_mem (k, v) hi)
          exact hmember.append (hcomma.cons hrest)

theorem cutInto_compact {j : Json} (h : Textual j) : CutInto (tokensOf j) (compact j) := by
  induction h with
  | string s => exact cutInto_quote s
  | array _ ih =>
      have hopen : CutInto [.openArray] ['['] := cutInto_mark rfl fun _ => rfl
      have hclose : CutInto [.closeArray] [']'] := cutInto_mark rfl fun _ => rfl
      exact hopen.cons ((cutInto_items ih).append hclose)
  | object _ ih =>
      have hopen : CutInto [.openObject] ['{'] := cutInto_mark rfl fun _ => rfl
      have hclose : CutInto [.closeObject] ['}'] := cutInto_mark rfl fun _ => rfl
      exact hopen.cons ((cutInto_members ih).append hclose)

theorem tokens_compact {j : Json} (h : Textual j) : tokens (compact j) = tokensOf j := by
  have hcut := cutInto_compact h [] []
  rw [List.append_nil, List.append_nil] at hcut
  rw [tokens, hcut, reversedTokens, List.reverse_reverse]

/-! ## Values -/

/-- The tokens are put together to the value, whatever frames are open. -/
def BuildsInto (j : Json) (ts : List Token) : Prop :=
  ∀ frames rest, run (.reading .value frames) (ts ++ rest) = run (place j frames) rest

theorem run_item {j : Json} (h : Textual j) (frames : List Frame) (rest : List Token) :
    run (.reading .item frames) (tokensOf j ++ rest) =
      run (.reading .value frames) (tokensOf j ++ rest) := by
  cases h <;> rfl

theorem run_items {items : List Json} (hne : items ≠ [])
    (h : ∀ j ∈ items, BuildsInto j (tokensOf j)) (before : List Json) (frames : List Frame)
    (rest : List Token) :
    run (.reading .value (.array before :: frames))
        (itemTokens items ++ .closeArray :: rest) =
      run (place (.array (before.reverse ++ items)) frames) rest := by
  induction items generalizing before with
  | nil => exact absurd rfl hne
  | cons j items ih =>
      have hj := h j (by simp)
      cases items with
      | nil =>
          rw [itemTokens, hj]
          simp [place, run, step, close?, Frame.close]
      | cons j' items =>
          have hitems := ih (by simp) (fun i hi => h i (List.mem_cons_of_mem j hi)) (j :: before)
          rw [List.reverse_cons, List.append_assoc] at hitems
          rw [itemTokens, List.append_assoc, hj]
          · exact hitems
          · simp

theorem membersOf_map (members : List (String × Json)) :
    membersOf (members.map fun m => (some m.1, m.2)) = (members, true) := by
  induction members with
  | nil => rfl
  | cons m rest ih => simp [membersOf, ih]

/-- The members of a frame, in reverse. -/
def pending (members : List (String × Json)) : List (Option String × Json) :=
  (members.map fun m => (some m.1, m.2)).reverse

theorem close_pending (members : List (String × Json)) (key : Option String) :
    (Frame.object (pending members) key).close = .object members := by
  simp [Frame.close, pending, membersOf_map]

theorem pending_concat (members : List (String × Json)) (k : String) (v : Json) :
    pending (members ++ [(k, v)]) = (some k, v) :: pending members := by
  simp [pending]

theorem run_member {v : Json} (h : BuildsInto v (tokensOf v)) (k : String)
    (before : List (String × Json)) (frames : List Frame) (rest : List Token) :
    run (.reading .key (.object (pending before) none :: frames))
        (.string (some k) :: .colon :: tokensOf v ++ rest) =
      run (.reading .more (.object (pending (before ++ [(k, v)])) none :: frames)) rest := by
  rw [pending_concat]
  exact h (.object (pending before) (some k) :: frames) rest

theorem run_members {members : List (String × Json)} (hne : members ≠ [])
    (h : ∀ m ∈ members, BuildsInto m.2 (tokensOf m.2)) (before : List (String × Json))
    (frames : List Frame) (rest : List Token) :
    run (.reading .key (.object (pending before) none :: frames))
        (memberTokens members ++ .closeObject :: rest) =
      run (place (.object (before ++ members)) frames) rest := by
  induction members generalizing before with
  | nil => exact absurd rfl hne
  | cons m members ih =>
      obtain ⟨k, v⟩ := m
      have hv : BuildsInto v (tokensOf v) := h (k, v) (by simp)
      cases members with
      | nil =>
          rw [memberTokens, run_member hv, run]
          simp only [step, close?, close_pending]
      | cons m' members =>
          have hmembers := ih (by simp) (fun i hi => h i (List.mem_cons_of_mem (k, v) hi))
            (before ++ [(k, v)])
          rw [List.append_assoc] at hmembers
          rw [memberTokens, List.append_assoc, run_member hv]
          · exact hmembers
          · simp

theorem run_array {j : Json} (hj : Textual j) (items : List Json) (frames : List Frame)
    (rest : List Token) :
    run (.reading .value frames) (tokensOf (.array (j :: items)) ++ rest) =
      run (.reading .value (.array [] :: frames))
        (itemTokens (j :: items) ++ .closeArray :: rest) := by
  have hfirst : ∃ more, itemTokens (j :: items) = tokensOf j ++ more := by
    cases items with
    | nil => exact ⟨[], (List.append_nil _).symm⟩
    | cons j' items => exact ⟨_, rfl⟩
  obtain ⟨more, hmore⟩ := hfirst
  have hitem := run_item hj (.array [] :: frames) (more ++ .closeArray :: rest)
  rw [← List.append_assoc, ← hmore] at hitem
  rw [tokensOf, List.cons_append, List.cons_append, List.append_assoc]
  exact hitem

theorem run_object (m : String × Json) (members : List (String × Json))
    (frames : List Frame) (rest : List Token) :
    run (.reading .value frames) (tokensOf (.object (m :: members)) ++ rest) =
      run (.reading .key (.object (pending []) none :: frames))
        (memberTokens (m :: members) ++ .closeObject :: rest) := by
  rw [tokensOf, List.cons_append, List.cons_append, List.append_assoc]
  cases members <;> rfl

theorem buildsInto_tokensOf {j : Json} (h : Textual j) : BuildsInto j (tokensOf j) := by
  induction h with
  | string s => exact fun frames rest => rfl
  | @array items h ih =>
      intro frames rest
      cases items with
      | nil => rfl
      | cons j items =>
          rw [run_array (h j (by simp))]
          exact run_items (by simp) ih [] frames rest
  | @object members h ih =>
      intro frames rest
      cases members with
      | nil => rfl
      | cons m members =>
          rw [run_object]
          exact run_members (by simp) ih [] frames rest

/-- Whatever is written is read back. -/
theorem read?_write {j : Json} (h : Textual j) : read? j.write = some j := by
  have hrun : run (.reading .value []) (tokensOf j) = (.done j, true) := by
    have hbuilds := buildsInto_tokensOf h [] []
    rwa [List.append_nil] at hbuilds
  simp [read?, readAsFar, write, tokens_compact h, hrun]

end ProgramGuide.Json
