import ProgramGuide.Json.Reader
import ProgramGuide.Settings.Basic
import ProgramGuide.Toml.Reader

/-!
# Reading settings

Settings are read one after the other, and the first fault found is the one reported.
What is not given keeps its standard value; what is not a setting is passed over.
-/

namespace ProgramGuide

inductive SettingFault where
  | negativeSpan (seconds : Int)
  | span (text : String) (fault : Span.Fault)
  | malformed
  | tooDeep
  deriving DecidableEq, Repr

/-- What there is to say about a span; of other faults only that there is one. -/
def SettingFault.spanMessage? : SettingFault → Option String
  | .negativeSpan seconds => some ("Negative duration: " ++ Text.integer seconds)
  | .span text fault => some ("Invalid duration '" ++ text ++ "': " ++ fault.message)
  | .malformed | .tooDeep => none

structure Setting (α : Type) where
  key : String
  apply : Json → α → Except SettingFault α

namespace Setting

def text? : Json → Except SettingFault String
  | .string s => .ok s
  | _ => .error .malformed

/-- A span as text, or as a whole number of seconds in a word of 64 bits. -/
def span? : Json → Except SettingFault Span
  | .string s => (Span.read s).mapError (.span s)
  | .number (.integer n) =>
      if n < -Int.pow 2 63 || Int.pow 2 64 ≤ n then .error .malformed
      else if n < 0 then .error (.negativeSpan n)
      else .ok (.ofSeconds n.toNat)
  | _ => .error .malformed

def optionalText? : Json → Except SettingFault (Option String)
  | .null => .ok none
  | .string s => .ok (some s)
  | _ => .error .malformed

def of (key : String) (read : Json → Except SettingFault β) (set : β → α → α) :
    Setting α where
  key
  apply value a := (read value).map (set · a)

end Setting

/-! ## Records of settings -/

/-- What a format asks of values that are no settings. -/
structure Strictness where
  /-- Arrays may hold no more than there are settings. -/
  refusesSurplus : Bool
  /-- Values of unknown keys must be readable. -/
  readsUnknown : Bool
  deriving DecidableEq, Repr

def readMembers (strictness : Strictness) (settings : List (Setting α))
    (given : List String) : List (String × Json) → α → Except SettingFault α
  | [], a => .ok a
  | (key, value) :: rest, a =>
      match settings.find? (·.key == key) with
      | none =>
          if strictness.readsUnknown && !value.isReadable then .error .malformed
          else readMembers strictness settings given rest a
      | some setting =>
          if given.contains key then .error .malformed
          else
            (setting.apply value a).bind
              (readMembers strictness settings (key :: given) rest)

def readItems (strictness : Strictness) :
    List (Setting α) → List Json → α → Except SettingFault α
  | _, [], a => .ok a
  | [], _ :: _, a => if strictness.refusesSurplus then .error .malformed else .ok a
  | setting :: settings, value :: rest, a =>
      (setting.apply value a).bind (readItems strictness settings rest)

def readRecord (strictness : Strictness) (settings : List (Setting α)) (standard : α) :
    Json → Except SettingFault α
  | .object members => readMembers strictness settings [] members standard
  | .brokenObject members =>
      (readMembers strictness settings [] members standard).bind fun _ => .error .malformed
  | .array items => readItems strictness settings items standard
  | _ => .error .malformed

namespace ServiceSettings

open Setting

def settings : List (Setting ServiceSettings) :=
  [of "base_url" text? fun v s => { s with baseUrl := v },
   of "request_timeout" span? fun v s => { s with requestTimeout := v },
   of "connect_timeout" span? fun v s => { s with connectTimeout := v },
   of "user_agent" text? fun v s => { s with userAgent := v },
   of "token_lifetime" span? fun v s => { s with tokenLifetime := v },
   of "auth_cooldown" span? fun v s => { s with authCooldown := v }]

end ServiceSettings

namespace AccountSettings

open Setting

def settings : List (Setting AccountSettings) :=
  [of "username" text? fun v s => { s with username := v },
   of "password" text? fun v s => { s with password := v },
   of "listings_id" text? fun v s => { s with listingsId := v },
   of "country" text? fun v s => { s with country := v },
   of "postal_code" text? fun v s => { s with postalCode := v }]

end AccountSettings

namespace SyncSettings

open Setting

def settings : List (Setting SyncSettings) :=
  [of "timezone" optionalText? fun v s => { s with timezone := v }]

end SyncSettings

namespace Settings

open Setting

def sections (strictness : Strictness) : List (Setting Settings) :=
  [of "service" (readRecord strictness ServiceSettings.settings standardService)
     fun v s => { s with service := v },
   of "account" (readRecord strictness AccountSettings.settings noAccount)
     fun v s => { s with account := v },
   of "sync" (readRecord strictness SyncSettings.settings ⟨none⟩)
     fun v s => { s with sync := v }]

def read (strictness : Strictness) (j : Json) : Except SettingFault Settings :=
  readRecord strictness (sections strictness) standard j

/-- The settings of a JSON text.  A fault in front of the place where the text breaks
off comes first. -/
def ofJsonText (text : String) : Except SettingFault Settings :=
  let reading := Json.readAsFar text
  match read ⟨true, false⟩ reading.value with
  | .ok s => if reading.complete then .ok s else .error .malformed
  | .error fault => .error fault

def ofTomlText (text : String) : Except SettingFault Settings :=
  match Toml.read text with
  | .ok document => read ⟨false, true⟩ document.toJson
  | .error .malformed => .error .malformed
  | .error .tooDeep => .error .tooDeep

end Settings

end ProgramGuide
