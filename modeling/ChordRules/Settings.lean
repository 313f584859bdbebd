import ChordRules.Text.Quoted
import ChordRules.Toml.Fault
import ChordRules.Toml.Reading

/-! # Settings

The settings are a TOML document of a fixed shape. Its keys are looked at in the order in which
they stand, and the first that does not fit is the error; only then is a missing key one. All
keys but one may be left out. -/
namespace ChordRules

/-- How texts are spoken. -/
structure Speech where
  program : String := "/usr/bin/espeak"
  voice : String := "male3"
  speed : Nat := 175
  pitch : Nat := 50
  intonation : Nat := 100
  deriving DecidableEq, Repr

structure Settings where
  rules : String
  device : Option String := none
  deviceMatch : Option String := none
  exclusive : Bool := false
  events : Option String := none
  /-- The base address of the server that holds the items, without slashes at its end. -/
  itemServer : Option String := none
  speech : Speech := {}
  deriving DecidableEq, Repr

/-- Where events come from. -/
inductive EventSource where
  | device (path : String)
  | deviceMatch (pattern : String)
  | file (path : String)
  | standardInput
  deriving DecidableEq, Repr

/-- A device comes before a pattern for one, and both before a file. -/
def Settings.eventSource (s : Settings) : EventSource :=
  match s.device, s.deviceMatch, s.events with
  | some path, _, _ => .device path
  | none, some pattern, _ => .deviceMatch pattern
  | none, none, some path => .file path
  | none, none, none => .standardInput

/-- What a key of the settings must have as its value. -/
inductive Wanted where
  | path | text | boolean | word32 | speech
  deriving DecidableEq, Repr

def Wanted.name : Wanted → String
  | path => "path string"
  | text => "a string"
  | boolean => "a boolean"
  | word32 => "u32"
  | speech => "struct SpeechConfig"

/-- What does not fit in a document. -/
inductive Misfit where
  | unknownKey (key : String) (known : List String)
  | missingKey (key : String)
  | badType (found : String) (wanted : Wanted)
  | badValue (found : String) (wanted : Wanted)
  deriving DecidableEq, Repr

def Misfit.message : Misfit → String
  | unknownKey key known =>
    "unknown field `" ++ key ++ "`, expected one of " ++
      ", ".intercalate (known.map fun k => "`" ++ k ++ "`")
  | missingKey key => "missing field `" ++ key ++ "`"
  | badType found wanted => "invalid type: " ++ found ++ ", expected " ++ wanted.name
  | badValue found wanted => "invalid value: " ++ found ++ ", expected " ++ wanted.name

/-- Why a text gives no settings. -/
inductive SettingsFault where
  | notToml (fault : Toml.Fault)
  | misfit (m : Misfit) (span : Span)
  deriving DecidableEq, Repr

namespace SettingsFault

def message : SettingsFault → String
  | notToml fault => fault.message
  | misfit m _ => m.message

/-- What a fault is about: where reading could not go on it is the next character. -/
def span (source : String) : SettingsFault → Span
  | notToml fault =>
    let lines := source.splitOn "\n"
    match source.toList[Toml.charsBefore lines fault.place]? with
    | some c => ⟨fault.place, fault.place.after c⟩
    | none => ⟨fault.place, fault.place⟩
  | misfit _ span => span

/-- The message of a fault below an excerpt of the text that has it. -/
def report (source : String) (f : SettingsFault) : String :=
  Toml.excerpt source (f.span source) f.message

end SettingsFault

/-- How a value is named in a message. -/
def Toml.Value.describe : Toml.Value → String
  | text s => "string " ++ quote s
  | integer i => "integer `" ++ showInt i ++ "`"
  | float x => "floating point `" ++ x.renderWithPoint ++ "`"
  | boolean b => "boolean `" ++ (if b then "true" else "false") ++ "`"
  | moment => "map"
  | array _ => "sequence"
  | table .. => "map"
  | tables _ => "sequence"

namespace Settings

def textOf (wanted : Wanted) : Toml.Value → Except Misfit String
  | .text s => .ok s
  | v => .error (.badType v.describe wanted)

def booleanOf : Toml.Value → Except Misfit Bool
  | .boolean b => .ok b
  | v => .error (.badType v.describe .boolean)

def wordOf : Toml.Value → Except Misfit Nat
  | .integer i =>
    if 0 ≤ i ∧ i < 0x100000000 then .ok i.toNat
    else .error (.badValue (Toml.Value.integer i).describe .word32)
  | v => .error (.badType v.describe .word32)

/-- What is at fault in a value is found at its place. -/
def locate {α : Type} (span : Span) : Except Misfit α → Except SettingsFault α :=
  Except.mapError (.misfit · span)

def speechKeys : List String := ["espeak", "voice", "speed", "pitch", "intonation"]

/-- Takes the value of one of the speech settings. -/
def speechEntry (s : Speech) (key : String) (v : Toml.Value) : Except Misfit Speech :=
  if key = "espeak" then return { s with program := ← textOf .path v }
  else if key = "voice" then return { s with voice := ← textOf .text v }
  else if key = "speed" then return { s with speed := ← wordOf v }
  else if key = "pitch" then return { s with pitch := ← wordOf v }
  else return { s with intonation := ← wordOf v }

/-- Takes one key of the speech settings. -/
def speechKey (s : Speech) (e : Toml.Entry Toml.Value) : Except SettingsFault Speech :=
  if speechKeys.contains e.key.text then locate e.place (speechEntry s e.key.text e.value)
  else locate e.key.span (.error (.unknownKey e.key.text speechKeys))

/-- Speech settings are a table, or the values alone in the order of the keys. -/
def speechOf (span : Span) : Toml.Value → Except SettingsFault Speech
  | .table _ entries => entries.foldlM speechKey {}
  | .array vs => (speechKeys.zip vs).foldlM (fun s e => locate e.2.2 (speechEntry s e.1 e.2.1)) {}
  | .tables reversed =>
    (speechKeys.zip reversed.reverse).foldlM
      (fun s e => locate e.2.2 (speechEntry s e.1 (.table .header e.2.1))) {}
  | .moment => locate span (.error (.unknownKey "$__toml_private_datetime" speechKeys))
  | v => locate span (.error (.badType v.describe .speech))

def keys : List String :=
  ["rules", "device", "device_match", "exclusive", "events", "openhab", "speech"]

/-- The settings of which some keys have been read. -/
structure Partial where
  rules : Option String := none
  rest : Settings := { rules := "" }

/-- Takes one key. -/
def entry (p : Partial) (e : Toml.Entry Toml.Value) : Except SettingsFault Partial :=
  let text (wanted : Wanted) : Except SettingsFault String := locate e.place (textOf wanted e.value)
  let key := e.key.text
  if key = "rules" then return { p with rules := some (← text .path) }
  else if key = "device" then
    return { p with rest := { p.rest with device := some (← text .path) } }
  else if key = "device_match" then
    return { p with rest := { p.rest with deviceMatch := some (← text .text) } }
  else if key = "exclusive" then
    return { p with rest := { p.rest with exclusive := ← locate e.place (booleanOf e.value) } }
  else if key = "events" then
    return { p with rest := { p.rest with events := some (← text .path) } }
  else if key = "openhab" then
    return { p with rest := { p.rest with itemServer := some (← text .text) } }
  else if key = "speech" then
    return { p with rest := { p.rest with speech := ← speechOf e.place e.value } }
  else locate e.key.span (.error (.unknownKey key keys))

/-- A text without the slashes at its end. -/
def trimSlashes (s : String) : String :=
  String.ofList (s.toList.reverse.dropWhile (· == '/')).reverse

/-- The settings that a document gives. -/
def ofDocument (d : Toml.Document) : Except SettingsFault Settings := do
  let p ← d.entries.foldlM entry {}
  match p.rules with
  | some rules => return { p.rest with rules, itemServer := p.rest.itemServer.map trimSlashes }
  | none => locate d.span (.error (.missingKey "rules"))

def ofText (source : String) : Except SettingsFault Settings :=
  match Toml.Document.ofText source with
  | .ok d => ofDocument d
  | .error fault => .error (.notToml fault)

end Settings
end ChordRules
