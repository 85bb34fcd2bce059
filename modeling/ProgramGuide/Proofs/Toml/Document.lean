import ProgramGuide.Proofs.Toml.Quote
import ProgramGuide.Toml.Reader

/-!
# Documents of sections

Headers with bare names, texts at bare keys and empty lines between them are read to one
table for each header.  It holds its texts in the order in which they stand.
-/

namespace ProgramGuide.Toml

/-! ## Bare names -/

def isBare (name : String) : Bool := !name.toList.isEmpty && name.toList.all isBareCharacter

theorem keyPart?_word {name : String} (h : isBare name = true) :
    keyPart? (.word name.toList) = some name := by
  rw [keyPart?, ← isBare, if_pos h, String.ofList_toList]

theorem readKey_word {name : String} (h : isBare name = true) :
    readKey [.word name.toList] = .ok ([], name) := by
  simp [readKey, keyPart?_word h, need, longestKey, bind, pure, Except.bind, Except.pure]

/-! ## Rows -/

inductive Row where
  | header (name : String)
  | entry (key text : String)
  | empty
  deriving DecidableEq, Repr

namespace Row

def text : Row → List Char
  | header name => '[' :: name.toList ++ [']', '\n']
  | entry key text => key.toList ++ [' ', '=', ' '] ++ quote text ++ ['\n']
  | empty => ['\n']

def tokens : Row → List Token
  | header name => [.openBracket, .word name.toList, .closeBracket, .lineEnd]
  | entry key text =>
      [.word key.toList, .blanks [' '], .equals, .blanks [' '], .string .basic (quote text),
        .lineEnd]
  | empty => [.lineEnd]

def headerLine (name : String) : Line := .table [.word name.toList]

def entryLine (key text : String) : Line :=
  .assignment [.word key.toList] (.scalar (.string .basic (quote text)))

def line? : Row → Option Line
  | header name => some (headerLine name)
  | entry key text => some (entryLine key text)
  | empty => none

def isPlain : Row → Bool
  | header name => isBare name
  | entry key _ => isBare key
  | empty => true

end Row

/-! ## Tokens of rows -/

namespace Token

theorem scan_passing (passed rest : List Char) :
    scan passed.length (passed ++ rest) = scan 0 rest := by
  induction passed with
  | nil => rfl
  | cons c cs ih => exact ih

theorem scan_first {c : Char} {cs rest : List Char} {token : Token}
    (h : first c (cs ++ rest) = (token, cs.length + 1)) :
    scan 0 (c :: cs ++ rest) = token :: scan 0 rest := by
  rw [List.cons_append, scan, h]
  exact congrArg _ (scan_passing cs rest)

theorem endsWord_bare {c : Char} (h : isBareCharacter c = true) : endsWord c = false := by
  have hmarks : (".=,[]\x7b\x7d \t#\r\n".toList.all fun c => !isBareCharacter c) = true := by
    decide
  rw [endsWord, List.contains_eq_mem, decide_eq_false_iff_not]
  intro hmem
  have hbare := List.all_eq_true.mp hmarks c hmem
  rw [h] at hbare
  cases hbare

theorem first_bare {c : Char} (h : isBareCharacter c = true) (cs : List Char) :
    first c cs =
      (.word (c :: cs.takeWhile (!endsWord ·)), (cs.takeWhile (!endsWord ·)).length + 1) := by
  have hblank : isBlank c = false := by
    rw [isBlank, Bool.or_eq_false_iff, beq_eq_false_iff_ne, beq_eq_false_iff_ne]
    constructor <;> (rintro rfl; cases h)
  unfold first
  split
  case h_16 => rw [hblank]; rfl
  all_goals cases h

theorem scan_word {name : String} (h : isBare name = true) {c : Char} (hend : endsWord c = true)
    (rest : List Char) :
    scan 0 (name.toList ++ c :: rest) = .word name.toList :: scan 0 (c :: rest) := by
  rw [isBare, Bool.and_eq_true] at h
  obtain ⟨hname, hbare⟩ := h
  cases hcs : name.toList with
  | nil => rw [hcs] at hname; cases hname
  | cons d ds =>
      rw [hcs, List.all_cons, Bool.and_eq_true, List.all_eq_true] at hbare
      have hword : (ds ++ c :: rest).takeWhile (!endsWord ·) = ds := by
        rw [List.takeWhile_append_of_pos, List.takeWhile_cons_of_neg, List.append_nil]
        · simp [hend]
        · intro e he
          rw [endsWord_bare (hbare.2 e he)]
          rfl
      refine scan_first ?_
      rw [first_bare hbare.1, hword]

theorem first_quote {cs : List Char} (h : cs.head? ≠ some '"') :
    first '"' cs = quoted .basic ['"'] (basicText cs) := by
  unfold first
  split
  all_goals grind

theorem scan_quote (s : String) (rest : List Char) :
    scan 0 (quote s ++ '\n' :: rest) = .string .basic (quote s) :: scan 0 ('\n' :: rest) := by
  have hfirst : first '"' (s.toList.flatMap quote.escapeCharacter ++ '"' :: '\n' :: rest) =
      quoted .basic ['"'] (s.toList.flatMap quote.escapeCharacter ++ ['"']) := by
    rw [← basicText_quote s ('\n' :: rest)]
    -- three quotes would open a string of several lines
    cases s.toList with
    | nil => rfl
    | cons c cs =>
        obtain ⟨d, ds, hspelled, hquote⟩ := (spelled_escapeCharacter c).opens
        refine first_quote ?_
        rw [List.flatMap_cons, hspelled]
        simpa using hquote
  rw [quote, List.cons_append]
  refine scan_first ?_
  rw [List.append_assoc, List.singleton_append, hfirst, quoted, Nat.add_comm]
  rfl

theorem scan_row {row : Row} (h : row.isPlain = true) (rest : List Char) :
    scan 0 (row.text ++ rest) = row.tokens ++ scan 0 rest := by
  cases row with
  | empty => rfl
  | header name =>
      calc scan 0 (Row.text (.header name) ++ rest)
          = .openBracket :: scan 0 (name.toList ++ ']' :: '\n' :: rest) := by
            simp only [Row.text, List.cons_append, List.append_assoc]
            rfl
        _ = Row.tokens (.header name) ++ scan 0 rest := by
            rw [scan_word h rfl]
            rfl
  | entry key text =>
      calc scan 0 (Row.text (.entry key text) ++ rest)
          = scan 0 (key.toList ++ ' ' :: '=' :: ' ' :: (quote text ++ '\n' :: rest)) := by
            simp only [Row.text, List.append_assoc, List.cons_append, List.nil_append]
        _ = .word key.toList :: .blanks [' '] :: .equals :: .blanks [' '] ::
              scan 0 (quote text ++ '\n' :: rest) := by
            rw [scan_word h rfl]
            rfl
        _ = Row.tokens (.entry key text) ++ scan 0 rest := by
            rw [scan_quote]
            rfl

theorem scan_rows {rows : List Row} (h : ∀ row ∈ rows, row.isPlain = true) :
    scan 0 (rows.flatMap Row.text) = rows.flatMap Row.tokens := by
  induction rows with
  | nil => rfl
  | cons row rows ih =>
      rw [List.forall_mem_cons] at h
      rw [List.flatMap_cons, scan_row h.1, ih h.2, List.flatMap_cons]

end Token

/-! ## Lines of rows -/

theorem isSound_tokens {rows : List Row} :
    (rows.flatMap Row.tokens).all Token.isSound = true := by
  rw [List.all_flatMap, List.all_eq_true]
  rintro (_ | _ | _) _ <;> rfl

theorem length_le_tokens (rows : List Row) :
    rows.length ≤ (rows.flatMap Row.tokens).length := by
  induction rows with
  | nil => exact Nat.le_refl 0
  | cons row rows ih =>
      have hrow : 1 ≤ row.tokens.length := by cases row <;> simp [Row.tokens]
      rw [List.flatMap_cons, List.length_append, List.length_cons]
      omega

theorem linesUpTo?_row (row : Row) (more : Nat) (rest : List Token) :
    linesUpTo? (more + 1) (row.tokens ++ rest) =
      match row.line? with
      | some line => (linesUpTo? more rest).map (line :: ·)
      | none => linesUpTo? (more + 1) rest := by
  cases row with
  | empty => rfl
  | header name => simp only [Row.line?, Option.map_eq_bind]; rfl
  | entry key text => simp only [Row.line?, Option.map_eq_bind]; rfl

theorem linesUpTo?_rows (rows : List Row) :
    ∀ more, rows.length < more →
      linesUpTo? more (rows.flatMap Row.tokens) = some (rows.filterMap Row.line?) := by
  induction rows with
  | nil =>
      rintro (_ | more) h
      · cases h
      · rfl
  | cons row rows ih =>
      rintro (_ | more) h
      · cases h
      rw [List.length_cons] at h
      rw [List.flatMap_cons, linesUpTo?_row, List.filterMap_cons]
      -- an empty row is passed over without a step of its own
      cases hline : row.line? with
      | none => exact ih (more + 1) (by omega)
      | some line => simp only [ih more (by omega), Option.map_some]

theorem lines?_rows (rows : List Row) :
    lines? (rows.flatMap Row.tokens) = some (rows.filterMap Row.line?) := by
  have hlength := length_le_tokens rows
  rw [lines?, if_pos isSound_tokens, linesUpTo?_rows rows _ (by omega)]

/-! ## Tables -/

theorem lookup_fresh {key : String} {members : Members} (h : key ∉ members.map Prod.fst) :
    members.lookup key = none := by
  rw [List.lookup_eq_none_iff]
  rintro m hm
  rw [bne_iff_ne]
  rintro rfl
  exact h (List.mem_map_of_mem hm)

theorem put_fresh {key : String} {members : Members} (h : key ∉ members.map Prod.fst)
    (value : Toml) : put key value members = members ++ [(key, value)] := by
  induction members with
  | nil => rfl
  | cons m members ih =>
      rw [List.map_cons, List.mem_cons, not_or] at h
      rw [put, if_neg (by simpa using Ne.symm h.1), ih h.2, List.cons_append]

theorem fresh_of_nodup {key : String} {members : Members} {others : List String}
    (h : (members.map Prod.fst ++ key :: others).Nodup) : key ∉ members.map Prod.fst :=
  fun hmem => (List.nodup_append.mp h).2.2 key hmem key List.mem_cons_self rfl

theorem readValue_quote (text : String) :
    readValue (.scalar (.string .basic (quote text))) = .ok (.string text) := by
  simp [readValue, readScalar, read?_quote, need, String.ofList_toList]

namespace Building

theorem finish_table {finished : Members} {name : String}
    (hfresh : name ∉ finished.map Prod.fst) (table : Members) :
    finish ⟨finished, .table [] name, table⟩ =
      .ok (finished ++ [(name, .table .header table)]) := by
  rw [← put_fresh hfresh]
  rfl

theorem add_header {b : Building} {finished : Members} (hfinish : b.finish = .ok finished)
    {name : String} (hname : isBare name = true) (hfresh : name ∉ finished.map Prod.fst) :
    b.add (Row.headerLine name) = .ok ⟨finished, .table [] name, []⟩ := by
  simp [add, Row.headerLine, hfinish, readKey_word hname, held?, lookup_fresh hfresh, need, bind,
    pure, Except.bind, Except.pure]

theorem add_entry (finished : Members) (place : Place) {table : Members} {key : String}
    (hkey : isBare key = true) (hfresh : key ∉ table.map Prod.fst) (text : String) :
    add ⟨finished, place, table⟩ (Row.entryLine key text) =
      .ok ⟨finished, place, table ++ [(key, .string text)]⟩ := by
  simp [add, Row.entryLine, readKey_word hkey, readValue_quote, assign, within,
    lookup_fresh hfresh, put_fresh hfresh, need, bind, pure, Except.bind, Except.pure]

end Building

/-! ## Sections -/

abbrev Section := String × List (String × String)

namespace Section

/-- The name is bare, and so are the keys, of which each is given once. -/
structure IsPlain (s : Section) : Prop where
  name : isBare s.1 = true
  keys : ∀ key ∈ s.2.map Prod.fst, isBare key = true
  once : (s.2.map Prod.fst).Nodup

def rows (s : Section) : List Row :=
  .header s.1 :: s.2.map fun entry => .entry entry.1 entry.2

def lines (s : Section) : List Line :=
  Row.headerLine s.1 :: s.2.map fun entry => Row.entryLine entry.1 entry.2

theorem filterMap_rows (s : Section) : s.rows.filterMap Row.line? = s.lines := by
  have hentries : (s.2.map fun entry => Row.entry entry.1 entry.2).filterMap Row.line? =
      s.2.map fun entry => Row.entryLine entry.1 entry.2 := by
    rw [List.filterMap_map]
    exact congrFun List.filterMap_eq_map s.2
  rw [rows, lines, ← hentries]
  rfl

def members (entries : List (String × String)) : Members :=
  entries.map fun entry => (entry.1, .string entry.2)

def toToml (s : Section) : String × Toml := (s.1, .table .header (members s.2))

end Section

namespace Building

/-- Every entry is put behind the members that the table has already. -/
theorem foldlM_entries (finished : Members) (place : Place) (entries : List (String × String)) :
    ∀ table : Members, (∀ key ∈ entries.map Prod.fst, isBare key = true) →
      (table.map Prod.fst ++ entries.map Prod.fst).Nodup →
      (entries.map fun entry => Row.entryLine entry.1 entry.2).foldlM add
          ⟨finished, place, table⟩ =
        .ok ⟨finished, place, table ++ Section.members entries⟩ := by
  induction entries with
  | nil =>
      intro table _ _
      rw [Section.members, List.map_nil, List.map_nil, List.append_nil]
      rfl
  | cons entry entries ih =>
      intro table hkeys honce
      rw [List.map_cons, List.forall_mem_cons] at hkeys
      have hfresh := fresh_of_nodup honce
      have hrest := ih (table ++ [(entry.1, .string entry.2)]) hkeys.2 (by
        rwa [List.map_append, List.append_assoc])
      rw [List.append_assoc] at hrest
      rw [List.map_cons, List.foldlM_cons, add_entry finished place hkeys.1 hfresh]
      exact hrest

theorem foldlM_section {b : Building} {finished : Members} (hfinish : b.finish = .ok finished)
    {s : Section} (hs : s.IsPlain) (hfresh : s.1 ∉ finished.map Prod.fst) :
    s.lines.foldlM add b = .ok ⟨finished, .table [] s.1, Section.members s.2⟩ := by
  rw [Section.lines, List.foldlM_cons, add_header hfinish hs.name hfresh]
  exact foldlM_entries finished (.table [] s.1) s.2 [] hs.keys hs.once

/-- Every section ends up behind what was finished before it. -/
theorem foldlM_sections (sections : List Section) :
    ∀ (b : Building) (finished : Members), b.finish = .ok finished →
      (∀ s ∈ sections, s.IsPlain) →
      (finished.map Prod.fst ++ sections.map Prod.fst).Nodup →
      ((sections.flatMap Section.lines).foldlM add b).bind finish =
        .ok (finished ++ sections.map Section.toToml) := by
  induction sections with
  | nil =>
      intro b finished hfinish _ _
      rw [List.map_nil, List.append_nil]
      exact hfinish
  | cons s sections ih =>
      intro b finished hfinish hplain honce
      rw [List.forall_mem_cons] at hplain
      have hfresh := fresh_of_nodup honce
      have hrest := ih _ _ (finish_table hfresh (Section.members s.2)) hplain.2 (by
        rwa [List.map_append, List.append_assoc])
      rw [List.append_assoc] at hrest
      rw [List.flatMap_cons, List.foldlM_append, foldlM_section hfinish hplain.1 hfresh]
      exact hrest

end Building

/-! ## Documents -/

def documentRows : List Section → List Row
  | [] => []
  | [s] => s.rows
  | s :: next :: rest => s.rows ++ .empty :: documentRows (next :: rest)

theorem flatMap_documentRows (sections : List Section) :
    (documentRows sections).flatMap Row.text =
      ['\n'].intercalate (sections.map fun s => s.rows.flatMap Row.text) := by
  fun_induction documentRows sections with
  | case1 => rfl
  | case2 s => simp
  | case3 s next rest ih =>
      rw [List.flatMap_append, List.flatMap_cons, ih]
      simp only [List.map_cons, List.intercalate_cons_cons, List.append_assoc]
      rfl

theorem filterMap_documentRows (sections : List Section) :
    (documentRows sections).filterMap Row.line? = sections.flatMap Section.lines := by
  fun_induction documentRows sections with
  | case1 => rfl
  | case2 s => rw [Section.filterMap_rows, List.flatMap_singleton]
  | case3 s next rest ih =>
      rw [List.filterMap_append, Section.filterMap_rows, List.flatMap_cons, ← ih]
      rfl

theorem isPlain_rows {s : Section} (h : s.IsPlain) : ∀ row ∈ s.rows, row.isPlain = true := by
  rw [Section.rows, List.forall_mem_cons, List.forall_mem_map]
  exact ⟨h.name, fun entry hentry => h.keys _ (List.mem_map_of_mem hentry)⟩

theorem isPlain_documentRows {sections : List Section} (h : ∀ s ∈ sections, s.IsPlain) :
    ∀ row ∈ documentRows sections, row.isPlain = true := by
  fun_induction documentRows sections with
  | case1 => nofun
  | case2 s => exact isPlain_rows (h s (List.mem_singleton_self s))
  | case3 s next rest ih =>
      rw [List.forall_mem_cons] at h
      rw [List.forall_mem_append, List.forall_mem_cons]
      exact ⟨isPlain_rows h.1, rfl, ih h.2⟩

theorem read_of_lines {cs : List Char} {lines : List Line} (hmark : cs.head? ≠ some '\uFEFF')
    (hlines : lines? (Token.scan 0 cs) = some lines) :
    read (String.ofList cs) =
      ((lines.foldlM Building.add Building.empty).bind Building.finish).map (.table .header) := by
  simp only [read, String.toList_ofList]
  split
  · exact absurd rfl hmark
  · rw [hlines]
    cases hfold : lines.foldlM Building.add Building.empty with
    | error fault => simp [need, hfold, bind, Except.bind, Except.map]
    | ok building =>
        cases hfinish : building.finish <;>
          simp [need, hfold, hfinish, bind, pure, Except.bind, Except.map, Except.pure]

/-- A document of sections is read to a table of each, and to nothing else. -/
theorem read_document {sections : List Section} (hplain : ∀ s ∈ sections, s.IsPlain)
    (honce : (sections.map Prod.fst).Nodup) :
    read (String.ofList (['\n'].intercalate (sections.map fun s => s.rows.flatMap Row.text))) =
      .ok (.table .header (sections.map Section.toToml)) := by
  have hfold := Building.foldlM_sections sections Building.empty [] rfl hplain honce
  rw [← flatMap_documentRows, read_of_lines, hfold]
  · rfl
  · rcases sections with _ | ⟨s, _ | ⟨next, rest⟩⟩ <;>
      simp [documentRows, Section.rows, Row.text]
  · rw [Token.scan_rows (isPlain_documentRows hplain), lines?_rows, filterMap_documentRows]

end ProgramGuide.Toml
