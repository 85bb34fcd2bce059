import ProgramGuide.Proofs.Calendar.Span
import ProgramGuide.Proofs.Json.Writer
import ProgramGuide.Proofs.Toml.Document
import ProgramGuide.Settings.Decoding

/-!
# Settings read back

A span that was saved is read as it was, and so are the settings that hold it, from JSON and
from the settings file.  A number of seconds means the same with its unit and without.
-/

namespace ProgramGuide

/-- The spans of the service can be told from what is written of them. -/
structure ServiceSettings.SpansFit (s : ServiceSettings) : Prop where
  requestTimeout : s.requestTimeout.Fits
  connectTimeout : s.connectTimeout.Fits
  tokenLifetime : s.tokenLifetime.Fits
  authCooldown : s.authCooldown.Fits

/-! ## Spans -/

namespace Setting

theorem span?_text {s : Span} (h : s.Fits) : span? (.string s.text) = .ok s := by
  rw [span?, Span.read_text h]
  rfl

theorem span?_seconds (n : Nat) :
    span? (.string (Text.natural n ++ "s")) =
      if n < Span.wordLimit then .ok (.ofSeconds n)
      else .error (.span (Text.natural n ++ "s") .outOfRange) := by
  rw [span?, Span.read_seconds]
  split
  next h => rw [Span.word_of_lt h]; rfl
  next h => rw [Span.word_of_le (Nat.le_of_not_lt h)]; rfl

theorem span?_natural (n : Nat) :
    span? (.natural n) =
      if n < Span.wordLimit then .ok (.ofSeconds n) else .error .malformed := by
  have hlow : ¬(n : Int) < -Int.pow 2 63 := by
    have hpow : (0 : Int) ≤ Int.pow 2 63 := by decide
    omega
  have hhigh : (Int.pow 2 64 ≤ (n : Int)) ↔ ¬n < Span.wordLimit := by
    rw [Nat.not_lt, ← Int.ofNat_le]
    rfl
  have hsign : ¬(n : Int) < 0 := by omega
  simp only [Json.natural, span?, hlow, hhigh, hsign, decide_false, Bool.false_or, if_false,
    decide_eq_true_eq, ite_not, Int.toNat_natCast]

theorem span?_negative {n : Int} (h : n < 0) :
    span? (.integer n) =
      .error (if -Int.pow 2 63 ≤ n then .negativeSpan n else .malformed) := by
  have hhigh : ¬Int.pow 2 64 ≤ n := by
    have hpow : (0 : Int) ≤ Int.pow 2 64 := by decide
    omega
  simp only [Json.integer, span?, hhigh, h, decide_false, Bool.or_false, decide_eq_true_eq,
    if_true, ← Int.not_le, ite_not]
  split <;> rfl

end Setting

/-! ## Records -/

def ServiceSettings.entriesByKey (s : ServiceSettings) : List (String × String) :=
  [("auth_cooldown", s.authCooldown.text), ("base_url", s.baseUrl),
   ("connect_timeout", s.connectTimeout.text), ("request_timeout", s.requestTimeout.text),
   ("token_lifetime", s.tokenLifetime.text), ("user_agent", s.userAgent)]

def AccountSettings.entriesByKey (s : AccountSettings) : List (String × String) :=
  [("country", s.country), ("listings_id", s.listingsId), ("password", s.password),
   ("postal_code", s.postalCode), ("username", s.username)]

namespace Settings

variable (strictness : Strictness)

def sectionJson (entries : List (String × String)) : Json :=
  .object (entries.map fun (key, text) => (key, .string text))

/-- All members are given, so it does not matter which values there were. -/
theorem read_service {s : ServiceSettings} (h : s.SpansFit) (before : ServiceSettings) :
    ∀ entries ∈ [s.entries, s.entriesByKey],
      readRecord strictness ServiceSettings.settings before (sectionJson entries) = .ok s := by
  have hrequest := Setting.span?_text h.requestTimeout
  have hconnect := Setting.span?_text h.connectTimeout
  have hlifetime := Setting.span?_text h.tokenLifetime
  have hcooldown := Setting.span?_text h.authCooldown
  simp only [List.forall_mem_cons]
  refine ⟨?_, ?_, nofun⟩ <;>
    simp [readRecord, readMembers, sectionJson, ServiceSettings.entries,
      ServiceSettings.entriesByKey, ServiceSettings.settings, Setting.of, Setting.text?, hrequest,
      hconnect, hlifetime, hcooldown, Except.map, Except.bind]

theorem read_account (s before : AccountSettings) :
    ∀ entries ∈ [s.entries, s.entriesByKey],
      readRecord strictness AccountSettings.settings before (sectionJson entries) = .ok s := by
  simp only [List.forall_mem_cons]
  refine ⟨?_, ?_, nofun⟩ <;>
    simp [readRecord, readMembers, sectionJson, AccountSettings.entries,
      AccountSettings.entriesByKey, AccountSettings.settings, Setting.of, Setting.text?, Except.map,
      Except.bind]

theorem read_sync (s : SyncSettings) :
    readRecord strictness SyncSettings.settings ⟨none⟩ (sectionJson s.entries) = .ok s := by
  obtain ⟨_ | name⟩ := s
  · rfl
  · simp [readRecord, readMembers, sectionJson, SyncSettings.entries, SyncSettings.settings,
      Setting.of, Setting.optionalText?, Except.map, Except.bind]

theorem toJson_eq (s : Settings) :
    s.toJson = .object [("service", sectionJson s.service.entries),
      ("account", sectionJson s.account.entries), ("sync", sectionJson s.sync.entries)] := rfl

theorem read_sections {s : Settings} {service account : Json}
    (hservice : readRecord strictness ServiceSettings.settings standardService service =
      .ok s.service)
    (haccount : readRecord strictness AccountSettings.settings noAccount account =
      .ok s.account) :
    ∀ members ∈
        [[("service", service), ("account", account), ("sync", sectionJson s.sync.entries)],
         [("account", account), ("service", service), ("sync", sectionJson s.sync.entries)]],
      read strictness (.object members) = .ok s := by
  have hsync := read_sync strictness s.sync
  simp only [List.forall_mem_cons]
  refine ⟨?_, ?_, nofun⟩ <;>
    simp [read, readRecord.eq_1, readMembers, sections, Setting.of, standard, hservice, haccount,
      hsync, Except.map, Except.bind]

theorem read_toJson {s : Settings} (h : s.service.SpansFit) : read strictness s.toJson = .ok s :=
  read_sections strictness
    (read_service strictness h standardService s.service.entries (by simp))
    (read_account strictness s.account noAccount s.account.entries (by simp))
    _ List.mem_cons_self

/-! ## JSON -/

theorem textual_toJson (s : Settings) : s.toJson.Textual := by
  have hsection (entries : List (String × String)) : (sectionJson entries).Textual := by
    refine .object fun m hm => ?_
    obtain ⟨entry, -, rfl⟩ := List.mem_map.mp hm
    exact .string entry.2
  rw [toJson_eq]
  refine .object ?_
  simp only [List.forall_mem_cons]
  exact ⟨hsection _, hsection _, hsection _, nofun⟩

theorem ofJsonText_write {s : Settings} (h : s.service.SpansFit) :
    ofJsonText s.toJson.write = .ok s := by
  have hread := Json.read?_write s.textual_toJson
  rw [Json.read?, Option.ite_none_right_eq_some, Option.some.injEq] at hread
  obtain ⟨hcomplete, hvalue⟩ := hread
  simp only [ofJsonText, hvalue, read_toJson _ h, hcomplete, if_true]

/-! ## The settings file -/

theorem sectionText_eq (part : Toml.Section) :
    sectionText part.1 part.2 = part.rows.flatMap Toml.Row.text := by
  rw [Toml.Section.rows, List.flatMap_cons, List.flatMap_map]
  rfl

theorem isPlain_of_keys {name : String} {entries : List (String × String)} (keys : List String)
    (hentries : entries.map Prod.fst = keys) (hname : Toml.isBare name = true)
    (hkeys : keys.all Toml.isBare = true) (honce : keys.Nodup) :
    Toml.Section.IsPlain (name, entries) := by
  subst hentries
  exact ⟨hname, List.all_eq_true.mp hkeys, honce⟩

theorem isPlain_entries (s : Settings) : ∀ part ∈ s.entries, Toml.Section.IsPlain part := by
  simp only [entries, List.forall_mem_cons]
  refine ⟨isPlain_of_keys ["base_url", "request_timeout", "connect_timeout", "user_agent",
      "token_lifetime", "auth_cooldown"] rfl ?_ ?_ ?_,
    isPlain_of_keys ["username", "password", "listings_id", "country", "postal_code"] rfl ?_ ?_ ?_,
    ?sync, nofun⟩
  case sync =>
    obtain ⟨-, -, ⟨_ | name⟩⟩ := s
    · exact isPlain_of_keys [] rfl (by decide) (by decide) (by decide)
    · exact isPlain_of_keys ["timezone"] rfl (by decide) (by decide) (by decide)
  all_goals decide

theorem fileText_eq (s : Settings) :
    s.fileText = String.ofList (['\n'].intercalate (s.entries.map fun part =>
      (Toml.Section.rows part).flatMap Toml.Row.text)) := by
  rw [fileText]
  congr 2
  exact List.map_congr_left fun part _ => sectionText_eq part

theorem read_fileText (s : Settings) :
    Toml.read s.fileText = .ok (.table .header (s.entries.map Toml.Section.toToml)) := by
  have honce : (s.entries.map Prod.fst).Nodup :=
    show ["service", "account", "sync"].Nodup by decide
  rw [fileText_eq, Toml.read_document s.isPlain_entries honce]

theorem toJson_toToml (s : Settings) :
    Toml.toJson (.table .header (s.entries.map Toml.Section.toToml)) =
      .object [("account", sectionJson s.account.entriesByKey),
        ("service", sectionJson s.service.entriesByKey),
        ("sync", sectionJson s.sync.entries)] := by
  have hsync : Toml.membersToJson [] (Toml.Section.members s.sync.entries) =
      s.sync.entries.map fun (key, text) => (key, .string text) := by
    obtain ⟨-, -, ⟨_ | name⟩⟩ := s <;> rfl
  simp only [entries, List.map_cons, List.map_nil, Toml.Section.toToml, Toml.toJson,
    Toml.membersToJson, hsync]
  simp only [Toml.toJson, Toml.membersToJson, Toml.Section.members, sectionJson, Json.putMember,
    ServiceSettings.entries, ServiceSettings.entriesByKey, AccountSettings.entries,
    AccountSettings.entriesByKey, List.map_cons, List.map_nil, beq_iff_eq, String.reduceEq,
    String.reduceLT, if_true, if_false]

theorem ofTomlText_fileText {s : Settings} (h : s.service.SpansFit) :
    ofTomlText s.fileText = .ok s := by
  simp only [ofTomlText, read_fileText, toJson_toToml]
  exact read_sections _
    (read_service _ h standardService s.service.entriesByKey (by simp))
    (read_account _ s.account noAccount s.account.entriesByKey (by simp))
    _ (by simp)

/-- Spans outlast being saved, alone and among the settings.  Whole seconds are the same
span as a number and as text, or none where there are too many; below zero there is none. -/
theorem spans_saved :
    (∀ s : Span, s.Fits → Setting.span? (.string s.text) = .ok s) ∧
    (∀ s : Settings, s.service.SpansFit →
      (∀ strictness, read strictness s.toJson = .ok s) ∧
      ofJsonText s.toJson.write = .ok s ∧ ofTomlText s.fileText = .ok s) ∧
    (∀ n : Nat,
      (n < Span.wordLimit → Setting.span? (.natural n) = .ok (.ofSeconds n)) ∧
      (Setting.span? (.natural n)).toOption =
        (Setting.span? (.string (Text.natural n ++ "s"))).toOption) ∧
    ∀ n : Int, n < 0 →
      Setting.span? (.integer n) =
        .error (if -Int.pow 2 63 ≤ n then .negativeSpan n else .malformed) := by
  refine ⟨fun s h => Setting.span?_text h,
    fun s h => ⟨fun _ => read_toJson _ h, ofJsonText_write h, ofTomlText_fileText h⟩,
    fun n => ⟨fun h => ?_, ?_⟩, fun n h => Setting.span?_negative h⟩
  · rw [Setting.span?_natural, if_pos h]
  · rw [Setting.span?_natural, Setting.span?_seconds]
    split <;> rfl

/-- The longest span, the widest number of seconds and the first below zero. -/
theorem longest_span_saved :
    Setting.span? (.string "584542046090years 7months 15days 17h 5m 3s 999ms 999us 999ns") =
      .ok ⟨18446744073709551615, 999999999⟩ ∧
    Setting.span? (.natural 18446744073709551615) = .ok ⟨18446744073709551615, 0⟩ ∧
    ofTomlText standard.fileText = .ok standard ∧
    Setting.span? (.integer (-1)) = .error (.negativeSpan (-1)) := by
  obtain ⟨htext, hsettings, hnatural, hnegative⟩ := spans_saved
  have hlongest := htext ⟨18446744073709551615, 999999999⟩ ⟨by decide, by decide⟩
  refine ⟨?_, (hnatural _).1 (by decide), (hsettings standard ?_).2.2,
    hnegative (-1) (by decide)⟩
  · have hwritten : (Span.mk 18446744073709551615 999999999).text =
        "584542046090years 7months 15days 17h 5m 3s 999ms 999us 999ns" := by decide +kernel
    rwa [hwritten] at hlongest
  · exact ⟨⟨by decide, by decide⟩, ⟨by decide, by decide⟩, ⟨by decide, by decide⟩,
      ⟨by decide, by decide⟩⟩

example : Setting.span? (.string "1m 30s") = Setting.span? (.natural 90) := by decide +kernel

end Settings
end ProgramGuide
