import ChordRules.Proofs.Toml.DistinctKeys
import ChordRules.Proofs.Toml.Lookup
import ChordRules.Settings
import Mathlib.Data.List.DropRight

/-! # What settings a document gives

A document gives settings exactly if it has the documented shape, and then every setting is the
value of its key or, where that is missing, its default. The key that is read next decides alone
what is set; this is said once for each table, and all else follows from what there is at each
key. -/
namespace ChordRules

open Toml (Entries Entry Value Fits Supplies bind_eq_ok_iff foldlM_ok_iff foldlM_holds)

def Wanted.TakesPlain : Wanted → Value → Prop
  | .path, .text _ | .text, .text _ | .boolean, .boolean _ => True
  | .word32, .integer i => 0 ≤ i ∧ i ≤ 4294967295
  | _, _ => False

def Speech.shape : List (String × Wanted) :=
  [("espeak", .path), ("voice", .text), ("speed", .word32), ("pitch", .word32),
    ("intonation", .word32)]

def Wanted.Takes : Wanted → Value → Prop
  | .speech, .table _ t => Fits TakesPlain Speech.shape (Entries.value? t)
  | wanted, v => wanted.TakesPlain v

def Settings.shape : List (String × Wanted) :=
  [("rules", .path), ("device", .path), ("device_match", .text), ("exclusive", .boolean),
    ("events", .path), ("openhab", .text), ("speech", .speech)]

structure Settings.Documented (look : Toml.Lookup) : Prop where
  rules : look "rules" ≠ none
  fits : Fits Wanted.Takes shape look

def Toml.Value.IsText (v : Value) (s : String) : Prop := v = .text s

def Toml.Value.IsSomeText (v : Value) (s : Option String) : Prop :=
  ∃ text, v = .text text ∧ s = some text

def Toml.Value.IsBoolean (v : Value) (b : Bool) : Prop := v = .boolean b

def Toml.Value.IsWord (v : Value) (n : Nat) : Prop := v = .integer n

def WithoutSlashes (text server : String) : Prop :=
  (∃ n, text.toList = server.toList ++ List.replicate n '/') ∧ server.toList.getLast? ≠ some '/'

def Toml.Value.IsServer (v : Value) (s : Option String) : Prop :=
  ∃ text server, v = .text text ∧ s = some server ∧ WithoutSlashes text server

structure Speech.Holds (s : Speech) (look : Toml.Lookup) : Prop where
  program : Supplies look "espeak" Value.IsText "/usr/bin/espeak" s.program
  voice : Supplies look "voice" Value.IsText "male3" s.voice
  speed : Supplies look "speed" Value.IsWord 175 s.speed
  pitch : Supplies look "pitch" Value.IsWord 50 s.pitch
  intonation : Supplies look "intonation" Value.IsWord 100 s.intonation

def Toml.Value.IsSpeech (v : Value) (s : Speech) : Prop :=
  ∃ origin t, v = .table origin t ∧ s.Holds (Entries.value? t)

/-- The settings of a table, each with its own default. -/
structure Settings.Holds (s : Settings) (look : Toml.Lookup) : Prop where
  rules : look "rules" = some (.text s.rules)
  device : Supplies look "device" Value.IsSomeText none s.device
  deviceMatch : Supplies look "device_match" Value.IsSomeText none s.deviceMatch
  exclusive : Supplies look "exclusive" Value.IsBoolean false s.exclusive
  events : Supplies look "events" Value.IsSomeText none s.events
  itemServer : Supplies look "openhab" Value.IsServer none s.itemServer
  speech : Supplies look "speech" Value.IsSpeech {} s.speech

/-- Two tables say the same of the settings: they have the same keys with the same values, but for
the slashes at the end of the server's address. -/
structure Settings.SayTheSame (look look' : Toml.Lookup) : Prop where
  plain : ∀ key, key ≠ "openhab" → key ≠ "speech" → look key = look' key
  server : look "openhab" = look' "openhab" ∨
    ∃ text text' base m n, look "openhab" = some (.text text) ∧
      look' "openhab" = some (.text text') ∧
      text.toList = base ++ List.replicate m '/' ∧ text'.toList = base ++ List.replicate n '/'
  speech : look "speech" = none ∧ look' "speech" = none ∨
    ∃ origin t origin' t', look "speech" = some (.table origin t) ∧
      look' "speech" = some (.table origin' t') ∧
      ∀ key, Entries.value? t key = Entries.value? t' key

namespace Settings

theorem locate_eq_ok_iff {α : Type} {span : Span} {x : Except Misfit α} {a : α} :
    locate span x = .ok a ↔ x = .ok a := by
  cases x <;> simp [locate, Except.mapError]

theorem textOf_eq_ok_iff {wanted : Wanted} {v : Value} {s : String} :
    textOf wanted v = .ok s ↔ v = .text s := by
  cases v <;> simp [textOf]

theorem booleanOf_eq_ok_iff {v : Value} {b : Bool} : booleanOf v = .ok b ↔ v = .boolean b := by
  cases v <;> simp [booleanOf]

/-- A number of 32 bits is neither negative nor too large. -/
theorem wordOf_eq_ok_iff {v : Value} {n : Nat} :
    wordOf v = .ok n ↔ v = .integer n ∧ n ≤ 4294967295 := by
  cases v with
  | integer i =>
    simp only [wordOf]
    split <;> simp <;> omega
  | _ => simp [wordOf]

end Settings

namespace Wanted

variable {v : Value}

theorem takesPlain_path_iff : path.TakesPlain v ↔ ∃ s, v = .text s := by
  cases v <;> simp [TakesPlain]

theorem takesPlain_text_iff : text.TakesPlain v ↔ ∃ s, v = .text s := by
  cases v <;> simp [TakesPlain]

theorem takesPlain_boolean_iff : boolean.TakesPlain v ↔ ∃ b, v = .boolean b := by
  cases v <;> simp [TakesPlain]

theorem takesPlain_word32_iff :
    word32.TakesPlain v ↔ ∃ n : Nat, v = .integer n ∧ n ≤ 4294967295 := by
  cases v with
  | integer i =>
    simp only [TakesPlain, Value.integer.injEq]
    constructor
    · rintro ⟨hlow, hhigh⟩
      exact ⟨i.toNat, by omega, by omega⟩
    · rintro ⟨n, rfl, hn⟩
      omega
  | _ => simp [TakesPlain]

/-- The speech settings are a table of a shape of its own. -/
theorem takes_speech_iff : speech.Takes v ↔
    ∃ origin t, v = .table origin t ∧ Fits TakesPlain Speech.shape (Entries.value? t) := by
  cases v <;> simp [Takes, TakesPlain]

theorem takes_table {wanted : Wanted} {origin origin' : Toml.Origin} {t t' : Entries}
    (ht : t.value? = t'.value?) (h : wanted.Takes (.table origin t)) :
    wanted.Takes (.table origin' t') := by
  cases wanted with
  | speech =>
    obtain ⟨_, _, ⟨⟩, hfits⟩ := takes_speech_iff.1 h
    exact takes_speech_iff.2 ⟨_, _, rfl, ht ▸ hfits⟩
  | _ => exact h.elim

end Wanted

namespace Speech

inductive Sets (s : Speech) : String → Value → Speech → Prop
  | program (text : String) : Sets s "espeak" (.text text) { s with program := text }
  | voice (text : String) : Sets s "voice" (.text text) { s with voice := text }
  | speed {n : Nat} (h : n ≤ 4294967295) : Sets s "speed" (.integer n) { s with speed := n }
  | pitch {n : Nat} (h : n ≤ 4294967295) : Sets s "pitch" (.integer n) { s with pitch := n }
  | intonation {n : Nat} (h : n ≤ 4294967295) :
    Sets s "intonation" (.integer n) { s with intonation := n }

open Settings in
theorem speechKey_eq_ok_iff {s s' : Speech} {e : Entry Value} :
    speechKey s e = .ok s' ↔ Sets s e.key.text e.value s' := by
  obtain ⟨⟨key, _⟩, _, v⟩ := e
  constructor
  · intro h
    by_cases hkey : key ∈ speechKeys
    · simp only [speechKeys, List.mem_cons, List.not_mem_nil, or_false] at hkey
      rcases hkey with rfl | rfl | rfl | rfl | rfl <;>
        simp only [speechKey, speechKeys, List.contains, List.elem, String.reduceBEq, if_true,
          speechEntry, String.reduceEq, if_false, locate_eq_ok_iff, bind_eq_ok_iff,
          textOf_eq_ok_iff, wordOf_eq_ok_iff, pure, Except.pure, Except.ok.injEq] at h
      · obtain ⟨text, rfl, rfl⟩ := h; exact .program text
      · obtain ⟨text, rfl, rfl⟩ := h; exact .voice text
      · obtain ⟨n, ⟨rfl, hn⟩, rfl⟩ := h; exact .speed hn
      · obtain ⟨n, ⟨rfl, hn⟩, rfl⟩ := h; exact .pitch hn
      · obtain ⟨n, ⟨rfl, hn⟩, rfl⟩ := h; exact .intonation hn
    · rw [speechKey, if_neg (by simpa using hkey)] at h
      cases h
  · generalize hk : key = k
    rintro (_ | _ | hn | hn | hn)
    all_goals
      simp [speechKey, speechKeys, speechEntry, locate_eq_ok_iff, bind_eq_ok_iff,
          textOf_eq_ok_iff, wordOf_eq_ok_iff, pure, Except.pure, *]

/-- Setting what one more key gives. -/
theorem Holds.sets {s s' : Speech} {look : Toml.Lookup} {key : String} {v : Value}
    (h : s.Holds look) (hs : Sets s key v s') : s'.Holds (Function.update look key (some v)) := by
  cases hs with
  | program text =>
    exact ⟨.here rfl, h.voice.elsewhere, h.speed.elsewhere,
      h.pitch.elsewhere, h.intonation.elsewhere⟩
  | voice text =>
    exact ⟨h.program.elsewhere, .here rfl, h.speed.elsewhere,
      h.pitch.elsewhere, h.intonation.elsewhere⟩
  | speed hn =>
    exact ⟨h.program.elsewhere, h.voice.elsewhere, .here rfl,
      h.pitch.elsewhere, h.intonation.elsewhere⟩
  | pitch hn =>
    exact ⟨h.program.elsewhere, h.voice.elsewhere,
      h.speed.elsewhere, .here rfl, h.intonation.elsewhere⟩
  | intonation hn =>
    exact ⟨h.program.elsewhere, h.voice.elsewhere,
      h.speed.elsewhere, h.pitch.elsewhere, .here rfl⟩

/-- A key can be set if it is one of the shape with a value as wanted there. -/
theorem exists_sets_iff (s : Speech) (key : String) (v : Value) :
    (∃ s', Sets s key v s') ↔ ∃ wanted, (key, wanted) ∈ shape ∧ wanted.TakesPlain v := by
  constructor
  · rintro ⟨s', hs⟩
    cases hs with
    | program text => exact ⟨.path, by simp [shape], trivial⟩
    | voice text => exact ⟨.text, by simp [shape], trivial⟩
    | speed hn => exact ⟨.word32, by simp [shape], Wanted.takesPlain_word32_iff.2 ⟨_, rfl, hn⟩⟩
    | pitch hn => exact ⟨.word32, by simp [shape], Wanted.takesPlain_word32_iff.2 ⟨_, rfl, hn⟩⟩
    | intonation hn =>
      exact ⟨.word32, by simp [shape], Wanted.takesPlain_word32_iff.2 ⟨_, rfl, hn⟩⟩
  · rintro ⟨wanted, hshape, htakes⟩
    simp only [shape, List.mem_cons, List.not_mem_nil, or_false, Prod.mk.injEq] at hshape
    rcases hshape with ⟨rfl, rfl⟩ | ⟨rfl, rfl⟩ | ⟨rfl, rfl⟩ | ⟨rfl, rfl⟩ | ⟨rfl, rfl⟩
    · obtain ⟨text, rfl⟩ := Wanted.takesPlain_path_iff.1 htakes
      exact ⟨_, .program text⟩
    · obtain ⟨text, rfl⟩ := Wanted.takesPlain_text_iff.1 htakes
      exact ⟨_, .voice text⟩
    · obtain ⟨n, rfl, hn⟩ := Wanted.takesPlain_word32_iff.1 htakes
      exact ⟨_, .speed hn⟩
    · obtain ⟨n, rfl, hn⟩ := Wanted.takesPlain_word32_iff.1 htakes
      exact ⟨_, .pitch hn⟩
    · obtain ⟨n, rfl, hn⟩ := Wanted.takesPlain_word32_iff.1 htakes
      exact ⟨_, .intonation hn⟩

theorem holds_missing : ({} : Speech).Holds fun _ => none := ⟨rfl, rfl, rfl, rfl, rfl⟩

variable {t : Entries}

/-- A speech table can be read if it fits the shape. -/
theorem foldlM_speechKey_ok_iff (ht : (t.map (·.key.text)).Nodup) :
    (∃ s, t.foldlM Settings.speechKey {} = .ok s) ↔ Fits Wanted.TakesPlain shape t.value? := by
  rw [Entries.fits_value?_iff ht]
  refine foldlM_ok_iff (fun e _ s => ?_) _
  rw [← exists_sets_iff s]
  exact exists_congr fun _ => speechKey_eq_ok_iff

theorem holds_of_foldlM (ht : (t.map (·.key.text)).Nodup) {s : Speech}
    (h : t.foldlM Settings.speechKey {} = .ok s) : s.Holds t.value? :=
  foldlM_holds ht (fun _ _ _ _ _ hs h => hs.sets (speechKey_eq_ok_iff.1 h)) holds_missing h

end Speech

namespace Settings

/-- What one key with its value makes of the settings that have been read. -/
inductive Partial.Sets (p : Partial) : String → Value → Partial → Prop
  | rules (text : String) : Sets p "rules" (.text text) { p with rules := some text }
  | device (text : String) :
    Sets p "device" (.text text) { p with rest := { p.rest with device := some text } }
  | deviceMatch (text : String) :
    Sets p "device_match" (.text text) { p with rest := { p.rest with deviceMatch := some text } }
  | exclusive (b : Bool) :
    Sets p "exclusive" (.boolean b) { p with rest := { p.rest with exclusive := b } }
  | events (text : String) :
    Sets p "events" (.text text) { p with rest := { p.rest with events := some text } }
  | itemServer (text : String) :
    Sets p "openhab" (.text text) { p with rest := { p.rest with itemServer := some text } }
  | speech {origin : Toml.Origin} {t : Entries} {s : Speech}
    (h : t.foldlM speechKey {} = .ok s) :
    Sets p "speech" (.table origin t) { p with rest := { p.rest with speech := s } }

/-- A known key is that of one setting; with any other there is no result. -/
theorem entry_eq_ok_iff {p p' : Partial} {e : Entry Value}
    (htable : e.key.text = "speech" → ∃ origin t, e.value = .table origin t) :
    entry p e = .ok p' ↔ p.Sets e.key.text e.value p' := by
  obtain ⟨⟨key, _⟩, _, v⟩ := e
  constructor
  · intro h
    by_cases hkey : key ∈ keys
    · simp only [keys, List.mem_cons, List.not_mem_nil, or_false] at hkey
      rcases hkey with rfl | rfl | rfl | rfl | rfl | rfl | rfl <;>
        simp only [entry, String.reduceEq, if_true, if_false, bind_eq_ok_iff, locate_eq_ok_iff,
          textOf_eq_ok_iff, booleanOf_eq_ok_iff, pure, Except.pure, Except.ok.injEq] at h
      · obtain ⟨text, rfl, rfl⟩ := h; exact .rules text
      · obtain ⟨text, rfl, rfl⟩ := h; exact .device text
      · obtain ⟨text, rfl, rfl⟩ := h; exact .deviceMatch text
      · obtain ⟨b, rfl, rfl⟩ := h; exact .exclusive b
      · obtain ⟨text, rfl, rfl⟩ := h; exact .events text
      · obtain ⟨text, rfl, rfl⟩ := h; exact .itemServer text
      · obtain ⟨origin, t, rfl⟩ := htable rfl
        obtain ⟨s, hs, rfl⟩ := h
        exact .speech hs
    · simp only [keys, List.mem_cons, List.not_mem_nil, or_false, not_or] at hkey
      simp [entry, hkey, locate_eq_ok_iff] at h
  · generalize hk : key = k
    rintro (_ | _ | _ | _ | _ | _ | h)
    all_goals
      simp [entry, speechOf, locate_eq_ok_iff, bind_eq_ok_iff, textOf_eq_ok_iff,
        booleanOf_eq_ok_iff, pure, Except.pure, *]

/-- What has been read of the settings; the slashes at the end of the address are still there. -/
structure Partial.Holds (p : Partial) (look : Toml.Lookup) : Prop where
  rules : Supplies look "rules" Value.IsSomeText none p.rules
  device : Supplies look "device" Value.IsSomeText none p.rest.device
  deviceMatch : Supplies look "device_match" Value.IsSomeText none p.rest.deviceMatch
  exclusive : Supplies look "exclusive" Value.IsBoolean false p.rest.exclusive
  events : Supplies look "events" Value.IsSomeText none p.rest.events
  itemServer : Supplies look "openhab" Value.IsSomeText none p.rest.itemServer
  speech : Supplies look "speech" Value.IsSpeech {} p.rest.speech

theorem Partial.holds_missing : ({} : Partial).Holds fun _ => none :=
  ⟨rfl, rfl, rfl, rfl, rfl, rfl, rfl⟩

theorem Partial.Holds.sets {p p' : Partial} {look : Toml.Lookup} {key : String} {v : Value}
    (h : p.Holds look) (hv : v.Keyed) (hp : p.Sets key v p') :
    p'.Holds (Function.update look key (some v)) := by
  cases hp with
  | rules text =>
    exact ⟨.here ⟨_, rfl, rfl⟩, h.device.elsewhere, h.deviceMatch.elsewhere,
      h.exclusive.elsewhere, h.events.elsewhere,
      h.itemServer.elsewhere, h.speech.elsewhere⟩
  | device text =>
    exact ⟨h.rules.elsewhere, .here ⟨_, rfl, rfl⟩, h.deviceMatch.elsewhere,
      h.exclusive.elsewhere, h.events.elsewhere,
      h.itemServer.elsewhere, h.speech.elsewhere⟩
  | deviceMatch text =>
    exact ⟨h.rules.elsewhere, h.device.elsewhere, .here ⟨_, rfl, rfl⟩,
      h.exclusive.elsewhere, h.events.elsewhere,
      h.itemServer.elsewhere, h.speech.elsewhere⟩
  | exclusive b =>
    exact ⟨h.rules.elsewhere, h.device.elsewhere,
      h.deviceMatch.elsewhere, .here rfl, h.events.elsewhere,
      h.itemServer.elsewhere, h.speech.elsewhere⟩
  | events text =>
    exact ⟨h.rules.elsewhere, h.device.elsewhere,
      h.deviceMatch.elsewhere, h.exclusive.elsewhere,
      .here ⟨_, rfl, rfl⟩, h.itemServer.elsewhere, h.speech.elsewhere⟩
  | itemServer text =>
    exact ⟨h.rules.elsewhere, h.device.elsewhere,
      h.deviceMatch.elsewhere, h.exclusive.elsewhere,
      h.events.elsewhere, .here ⟨_, rfl, rfl⟩, h.speech.elsewhere⟩
  | speech hs =>
    exact ⟨h.rules.elsewhere, h.device.elsewhere,
      h.deviceMatch.elsewhere, h.exclusive.elsewhere,
      h.events.elsewhere, h.itemServer.elsewhere,
      .here ⟨_, _, rfl, Speech.holds_of_foldlM (Toml.Value.keyed_table_iff.1 hv).distinct hs⟩⟩

theorem Partial.exists_sets_iff (p : Partial) (key : String) {v : Value} (hv : v.Keyed) :
    (∃ p', p.Sets key v p') ↔ ∃ wanted, (key, wanted) ∈ shape ∧ wanted.Takes v := by
  constructor
  · rintro ⟨p', hp⟩
    cases hp with
    | rules text => exact ⟨.path, by simp [shape], trivial⟩
    | device text => exact ⟨.path, by simp [shape], trivial⟩
    | deviceMatch text => exact ⟨.text, by simp [shape], trivial⟩
    | exclusive b => exact ⟨.boolean, by simp [shape], trivial⟩
    | events text => exact ⟨.path, by simp [shape], trivial⟩
    | itemServer text => exact ⟨.text, by simp [shape], trivial⟩
    | speech hs =>
      have ht := (Toml.Value.keyed_table_iff.1 hv).distinct
      exact ⟨.speech, by simp [shape], (Speech.foldlM_speechKey_ok_iff ht).1 ⟨_, hs⟩⟩
  · rintro ⟨wanted, hshape, htakes⟩
    simp only [shape, List.mem_cons, List.not_mem_nil, or_false, Prod.mk.injEq] at hshape
    rcases hshape with ⟨rfl, rfl⟩ | ⟨rfl, rfl⟩ | ⟨rfl, rfl⟩ | ⟨rfl, rfl⟩ | ⟨rfl, rfl⟩ |
      ⟨rfl, rfl⟩ | ⟨rfl, rfl⟩
    · obtain ⟨text, rfl⟩ := Wanted.takesPlain_path_iff.1 htakes
      exact ⟨_, .rules text⟩
    · obtain ⟨text, rfl⟩ := Wanted.takesPlain_path_iff.1 htakes
      exact ⟨_, .device text⟩
    · obtain ⟨text, rfl⟩ := Wanted.takesPlain_text_iff.1 htakes
      exact ⟨_, .deviceMatch text⟩
    · obtain ⟨b, rfl⟩ := Wanted.takesPlain_boolean_iff.1 htakes
      exact ⟨_, .exclusive b⟩
    · obtain ⟨text, rfl⟩ := Wanted.takesPlain_path_iff.1 htakes
      exact ⟨_, .events text⟩
    · obtain ⟨text, rfl⟩ := Wanted.takesPlain_text_iff.1 htakes
      exact ⟨_, .itemServer text⟩
    · obtain ⟨origin, t, rfl, hfits⟩ := Wanted.takes_speech_iff.1 htakes
      have ht := (Toml.Value.keyed_table_iff.1 hv).distinct
      obtain ⟨s, hs⟩ := (Speech.foldlM_speechKey_ok_iff ht).2 hfits
      exact ⟨_, .speech hs⟩

def SpeechIsTable (look : Toml.Lookup) : Prop :=
  ∀ v, look "speech" = some v → ∃ origin t, v = .table origin t

section

variable {t : Entries}

theorem entry_eq_ok_iff_of_mem (ht : t.Keyed) (hspeech : SpeechIsTable t.value?) {e : Entry Value}
    (he : e ∈ t) {p p' : Partial} : entry p e = .ok p' ↔ p.Sets e.key.text e.value p' :=
  entry_eq_ok_iff fun hkey =>
    hspeech _ ((Entries.value?_eq_some_iff ht.distinct).2 ⟨e, he, hkey, rfl⟩)

theorem foldlM_entry_ok_iff (ht : t.Keyed) (hspeech : SpeechIsTable t.value?) :
    (∃ p, t.foldlM entry {} = .ok p) ↔ Fits Wanted.Takes shape t.value? := by
  rw [Entries.fits_value?_iff ht.distinct]
  refine foldlM_ok_iff (fun e he p => ?_) _
  rw [← p.exists_sets_iff _ (ht.values e he)]
  exact exists_congr fun _ => entry_eq_ok_iff_of_mem ht hspeech he

theorem holds_of_foldlM (ht : t.Keyed) (hspeech : SpeechIsTable t.value?) {p : Partial}
    (h : t.foldlM entry {} = .ok p) : p.Holds t.value? :=
  foldlM_holds ht.distinct (fun e he _ _ _ hp hstep =>
    hp.sets (ht.values e he) ((entry_eq_ok_iff_of_mem ht hspeech he).1 hstep))
    Partial.holds_missing h

end

theorem toList_trimSlashes (text : String) :
    (trimSlashes text).toList = text.toList.rdropWhile (· == '/') := by
  simp [trimSlashes, List.rdropWhile]

theorem rdropWhile_append_replicate {α : Type} {p : α → Bool} {a : α} (ha : p a) (l : List α)
    (n : Nat) : (l ++ List.replicate n a).rdropWhile p = l.rdropWhile p := by
  induction n with
  | zero => simp
  | succ n ih =>
    rw [List.replicate_succ', ← List.append_assoc, List.rdropWhile_concat_pos _ _ _ ha, ih]

/-- How many slashes stand at the end does not matter. -/
theorem trimSlashes_eq_of_append {text text' : String} {base : List Char} {m n : Nat}
    (h : text.toList = base ++ List.replicate m '/')
    (h' : text'.toList = base ++ List.replicate n '/') : trimSlashes text = trimSlashes text' := by
  rw [← String.toList_inj, toList_trimSlashes, toList_trimSlashes, h, h',
    rdropWhile_append_replicate (by decide), rdropWhile_append_replicate (by decide)]

theorem withoutSlashes_trimSlashes (text : String) : WithoutSlashes text (trimSlashes text) := by
  rw [WithoutSlashes, toList_trimSlashes]
  constructor
  · obtain ⟨n, hn⟩ : ∃ n, text.toList.rtakeWhile (· == '/') = List.replicate n '/' :=
      ⟨_, List.eq_replicate_of_mem fun c hc => by simpa using List.mem_rtakeWhile_imp hc⟩
    exact ⟨n, by rw [← hn, List.rdropWhile_append_rtakeWhile]⟩
  · intro hlast
    have hne : text.toList.rdropWhile (· == '/') ≠ [] := by
      intro hnil
      simp [hnil] at hlast
    rw [List.getLast?_eq_some_getLast hne] at hlast
    exact List.rdropWhile_last_not _ _ hne (by simp [Option.some.inj hlast])

theorem eq_trimSlashes {text server : String} (h : WithoutSlashes text server) :
    server = trimSlashes text := by
  obtain ⟨⟨n, htext⟩, hlast⟩ := h
  rw [← String.toList_inj, toList_trimSlashes, htext, rdropWhile_append_replicate (by decide),
    eq_comm, List.rdropWhile_eq_self_iff]
  intro hne hslash
  exact hlast (by rw [List.getLast?_eq_some_getLast hne]; simpa using hslash)

theorem supplies_some_iff {look : Toml.Lookup} {key text : String} :
    Supplies look key Value.IsSomeText none (some text) ↔ look key = some (.text text) := by
  unfold Supplies
  split <;> simp [Value.IsSomeText, *]

theorem isServer_trimSlashes {server : Option String} (v : Value) (h : v.IsSomeText server) :
    v.IsServer (server.map trimSlashes) := by
  obtain ⟨text, rfl, rfl⟩ := h
  exact ⟨text, _, rfl, rfl, withoutSlashes_trimSlashes text⟩

section

variable {d : Toml.Document} (hd : d.entries.Keyed) (hspeech : SpeechIsTable d.entries.value?)

include hd hspeech

theorem holds_of_ofDocument {s : Settings} (h : ofDocument d = .ok s) :
    s.Holds d.entries.value? := by
  obtain ⟨p, hp, h⟩ := bind_eq_ok_iff.1 h
  have hholds := holds_of_foldlM hd hspeech hp
  cases hrules : p.rules with
  | none => rw [hrules] at h; cases h
  | some rules =>
    rw [hrules] at h
    cases h
    exact ⟨supplies_some_iff.1 (hrules ▸ hholds.rules), hholds.device, hholds.deviceMatch,
      hholds.exclusive, hholds.events, hholds.itemServer.map isServer_trimSlashes, hholds.speech⟩

theorem exists_ofDocument_iff :
    (∃ s, ofDocument d = .ok s) ↔ Documented d.entries.value? := by
  constructor
  · rintro ⟨s, hs⟩
    obtain ⟨p, hp, -⟩ := bind_eq_ok_iff.1 hs
    exact ⟨by simp [(holds_of_ofDocument hd hspeech hs).rules],
      (foldlM_entry_ok_iff hd hspeech).1 ⟨p, hp⟩⟩
  · rintro ⟨hrules, hfits⟩
    obtain ⟨p, hp⟩ := (foldlM_entry_ok_iff hd hspeech).2 hfits
    have hsupplies := (holds_of_foldlM hd hspeech hp).rules
    obtain ⟨v, hv⟩ := Option.ne_none_iff_exists'.1 hrules
    simp only [Supplies, hv] at hsupplies
    obtain ⟨text, -, htext⟩ := hsupplies
    exact ⟨_, bind_eq_ok_iff.2 ⟨p, hp, by rw [htext]; rfl⟩⟩

end

namespace SayTheSame

variable {look look' : Toml.Lookup}

theorem symm (h : SayTheSame look look') : SayTheSame look' look where
  plain key hserver hspeech := (h.plain key hserver hspeech).symm
  server := by
    rcases h.server with hserver | ⟨text, text', base, m, n, hlook, hlook', htext, htext'⟩
    · exact .inl hserver.symm
    · exact .inr ⟨text', text, base, n, m, hlook', hlook, htext', htext⟩
  speech := by
    rcases h.speech with ⟨hnone, hnone'⟩ | ⟨origin, t, origin', t', hlook, hlook', ht⟩
    · exact .inl ⟨hnone', hnone⟩
    · exact .inr ⟨origin', t', origin, t, hlook', hlook, fun key => (ht key).symm⟩

theorem speechIsTable (h : SayTheSame look look') : SpeechIsTable look := by
  intro v hv
  rcases h.speech with ⟨hnone, -⟩ | ⟨origin, t, -, -, hlook, -⟩
  · rw [hnone] at hv; cases hv
  · rw [hlook] at hv; cases hv
    exact ⟨origin, t, rfl⟩

/-- What says the same is documented alike; only under two keys may the values differ. -/
theorem documented (h : SayTheSame look look') (hdoc : Documented look) : Documented look' where
  rules := h.plain "rules" (by decide) (by decide) ▸ hdoc.rules
  fits key v hv := by
    by_cases hserver : key = "openhab"
    · subst hserver
      rcases h.server with hsame | ⟨text, text', -, -, -, hlook, hlook', -⟩
      · exact hdoc.fits _ v (hsame.trans hv)
      · obtain rfl := Option.some.inj (hlook'.symm.trans hv)
        exact ⟨.text, by simp [shape], trivial⟩
    · by_cases hspeech : key = "speech"
      · subst hspeech
        rcases h.speech with ⟨-, hnone⟩ | ⟨origin, t, origin', t', hlook, hlook', ht⟩
        · rw [hnone] at hv; cases hv
        · obtain rfl := Option.some.inj (hlook'.symm.trans hv)
          obtain ⟨wanted, hshape, htakes⟩ := hdoc.fits _ _ hlook
          exact ⟨wanted, hshape, Wanted.takes_table (funext ht) htakes⟩
      · exact hdoc.fits key v ((h.plain key hserver hspeech).trans hv)

/-- What one document gives the other gives as well. -/
theorem holds (h : SayTheSame look look') {s : Settings} (hs : s.Holds look) : s.Holds look' where
  rules := (h.plain _ (by decide) (by decide)).symm.trans hs.rules
  device := hs.device.congr (h.plain _ (by decide) (by decide))
  deviceMatch := hs.deviceMatch.congr (h.plain _ (by decide) (by decide))
  exclusive := hs.exclusive.congr (h.plain _ (by decide) (by decide))
  events := hs.events.congr (h.plain _ (by decide) (by decide))
  itemServer := by
    rcases h.server with hsame | ⟨text, text', base, m, n, hlook, hlook', htext, htext'⟩
    · exact hs.itemServer.congr hsame
    · have hsupplies := hs.itemServer
      simp only [Supplies, hlook, hlook'] at hsupplies ⊢
      obtain ⟨_, server, ⟨⟩, hserver, hwithout⟩ := hsupplies
      rw [eq_trimSlashes hwithout, trimSlashes_eq_of_append htext htext'] at hserver
      exact ⟨text', _, rfl, hserver, withoutSlashes_trimSlashes text'⟩
  speech := by
    rcases h.speech with ⟨hnone, hnone'⟩ | ⟨origin, t, origin', t', hlook, hlook', ht⟩
    · exact hs.speech.congr (hnone.trans hnone'.symm)
    · have hsupplies := hs.speech
      simp only [Supplies, hlook, hlook'] at hsupplies ⊢
      obtain ⟨_, _, ⟨⟩, hholds⟩ := hsupplies
      exact ⟨origin', t', rfl, funext ht ▸ hholds⟩

end SayTheSame

theorem isText_unique (v : Value) (a b : String) (ha : v.IsText a) (hb : v.IsText b) : a = b :=
  Value.text.inj (ha.symm.trans hb)

theorem isBoolean_unique (v : Value) (a b : Bool) (ha : v.IsBoolean a) (hb : v.IsBoolean b) :
    a = b :=
  Value.boolean.inj (ha.symm.trans hb)

theorem isWord_unique (v : Value) (m n : Nat) (hm : v.IsWord m) (hn : v.IsWord n) : m = n :=
  Int.ofNat.inj (Value.integer.inj (hm.symm.trans hn))

theorem isSomeText_unique (v : Value) (a b : Option String) (ha : v.IsSomeText a)
    (hb : v.IsSomeText b) : a = b := by
  obtain ⟨text, rfl, rfl⟩ := ha
  obtain ⟨_, ⟨⟩, rfl⟩ := hb
  rfl

theorem isServer_unique (v : Value) (a b : Option String) (ha : v.IsServer a)
    (hb : v.IsServer b) : a = b := by
  obtain ⟨text, server, rfl, rfl, hserver⟩ := ha
  obtain ⟨_, server', ⟨⟩, rfl, hserver'⟩ := hb
  rw [eq_trimSlashes hserver, eq_trimSlashes hserver']

theorem speechHolds_unique {s s' : Speech} {look : Toml.Lookup} (h : s.Holds look)
    (h' : s'.Holds look) : s = s' := by
  cases s; cases s'
  rw [Speech.mk.injEq]
  exact ⟨h.program.unique isText_unique h'.program, h.voice.unique isText_unique h'.voice,
    h.speed.unique isWord_unique h'.speed, h.pitch.unique isWord_unique h'.pitch,
    h.intonation.unique isWord_unique h'.intonation⟩

theorem isSpeech_unique (v : Value) (a b : Speech) (ha : v.IsSpeech a) (hb : v.IsSpeech b) :
    a = b := by
  obtain ⟨origin, t, rfl, hholds⟩ := ha
  obtain ⟨_, _, ⟨⟩, hholds'⟩ := hb
  exact speechHolds_unique hholds hholds'

theorem Holds.unique {s s' : Settings} {look : Toml.Lookup} (h : s.Holds look)
    (h' : s'.Holds look) : s = s' := by
  have hrules := Value.text.inj (Option.some.inj (h.rules.symm.trans h'.rules))
  cases s; cases s'
  rw [Settings.mk.injEq]
  exact ⟨hrules, h.device.unique isSomeText_unique h'.device,
    h.deviceMatch.unique isSomeText_unique h'.deviceMatch,
    h.exclusive.unique isBoolean_unique h'.exclusive, h.events.unique isSomeText_unique h'.events,
    h.itemServer.unique isServer_unique h'.itemServer, h.speech.unique isSpeech_unique h'.speech⟩

theorem ofText_eq {source : String} {d : Toml.Document} (hd : Toml.Document.ofText source = .ok d) :
    ofText source = ofDocument d := by
  rw [ofText, hd]

/-- What gives settings gives the same in a document that says the same. -/
theorem ofDocument_of_sayTheSame {d d' : Toml.Document} (hd : d.entries.Keyed)
    (hd' : d'.entries.Keyed) (h : SayTheSame d.entries.value? d'.entries.value?) {s : Settings}
    (hs : ofDocument d = .ok s) : ofDocument d' = .ok s := by
  have hdoc := h.documented ((exists_ofDocument_iff hd h.speechIsTable).1 ⟨s, hs⟩)
  obtain ⟨s', hs'⟩ := (exists_ofDocument_iff hd' h.symm.speechIsTable).2 hdoc
  have hholds := h.holds (holds_of_ofDocument hd h.speechIsTable hs)
  rw [hs', hholds.unique (holds_of_ofDocument hd' h.symm.speechIsTable hs')]

/-- Settings can be read from a document whose speech settings are a table exactly if it has the
documented shape. Each of them is then what its key has or else its own default, and the server's
address ends in no slash. A document that says the same, with its keys in any order and any number
of slashes behind the address, gives the same settings. -/
theorem ofText_documented {source : String} {d : Toml.Document}
    (hd : Toml.Document.ofText source = .ok d) (hspeech : SpeechIsTable d.entries.value?) :
    ((∃ s, ofText source = .ok s) ↔ Documented d.entries.value?) ∧
    (∀ s, ofText source = .ok s → s.Holds d.entries.value?) ∧
    ∀ source' d', Toml.Document.ofText source' = .ok d' →
      SayTheSame d.entries.value? d'.entries.value? →
      ∀ s, ofText source = .ok s ↔ ofText source' = .ok s := by
  have hkeyed := Toml.Document.keyed_of_ofText hd
  simp only [ofText_eq hd]
  refine ⟨exists_ofDocument_iff hkeyed hspeech, fun _ => holds_of_ofDocument hkeyed hspeech, ?_⟩
  intro source' d' hd' hsame s
  have hkeyed' := Toml.Document.keyed_of_ofText hd'
  rw [ofText_eq hd']
  exact ⟨ofDocument_of_sayTheSame hkeyed hkeyed' hsame,
    ofDocument_of_sayTheSame hkeyed' hkeyed hsame.symm⟩

/-- What a value is as far as it is plain: a text, or nothing where it is an empty table. -/
def plain? : Value → Option (Option String)
  | .text s => some (some s)
  | .table _ [] => some none
  | _ => none

/-- The keys of a document, and what is plain at each. -/
def plainEntries (d : Toml.Document) : List (String × Option (Option String)) :=
  d.entries.map fun e => (e.key.text, plain? e.value)

/-- What is plain at a key can be told from the keys with what is plain at each. -/
theorem plain?_value? (d : Toml.Document) (key : String) :
    (d.entries.value? key).map plain? = (plainEntries d).lookup key := by
  rw [plainEntries]
  induction d.entries with
  | nil => rfl
  | cons e t ih =>
    simp only [Entries.value?, Entries.get?, List.find?_cons, List.map_cons, List.lookup_cons,
      BEq.comm (a := key)] at ih ⊢
    cases e.key.text == key with
    | true => rfl
    | false => exact ih

variable {d : Toml.Document} {key : String}

theorem exists_value?_of_lookup {p : Option (Option String)}
    (h : (plainEntries d).lookup key = some p) :
    ∃ v, d.entries.value? key = some v ∧ plain? v = p := by
  rwa [← plain?_value?, Option.map_eq_some_iff] at h

theorem value?_of_text {s : String} (h : (plainEntries d).lookup key = some (some (some s))) :
    d.entries.value? key = some (.text s) := by
  obtain ⟨v, hv, hplain⟩ := exists_value?_of_lookup h
  unfold plain? at hplain
  split at hplain <;> simp_all

theorem value?_of_table (h : (plainEntries d).lookup key = some (some none)) :
    ∃ origin, d.entries.value? key = some (.table origin []) := by
  obtain ⟨v, hv, hplain⟩ := exists_value?_of_lookup h
  unfold plain? at hplain
  split at hplain <;> simp_all

theorem value?_of_none (h : (plainEntries d).lookup key = none) : d.entries.value? key = none := by
  rwa [← plain?_value?, Option.map_eq_none_iff] at h

theorem exists_ok_of_toOption {ε α β : Type} {x : Except ε α} {f : α → β} {b : β}
    (h : x.toOption.map f = some b) : ∃ a, x = .ok a ∧ f a = b := by
  cases x with
  | ok a => exact ⟨a, rfl, Option.some.inj h⟩
  | error e => cases h

/-- The keys in another order, the speech settings in braces, and a slash more. -/
theorem ofText_documented_reordered :
    ∃ d, Toml.Document.ofText "openhab=\"h\"\nrules=\"r\"\n[speech]" = .ok d ∧
      SpeechIsTable d.entries.value? ∧ Documented d.entries.value? ∧
      ofText "rules=\"r\"\nspeech=\x7b\x7d\nopenhab=\"h/\"" =
        .ok { rules := "r", itemServer := some "h" } := by
  obtain ⟨d, hd, htable⟩ := exists_ok_of_toOption (f := plainEntries) (b :=
    [("openhab", some (some "h")), ("rules", some (some "r")), ("speech", some none)])
    (x := Toml.Document.ofText "openhab=\"h\"\nrules=\"r\"\n[speech]") (by decide +kernel)
  obtain ⟨d', hd', htable'⟩ := exists_ok_of_toOption (f := plainEntries) (b :=
    [("rules", some (some "r")), ("speech", some none), ("openhab", some (some "h/"))])
    (x := Toml.Document.ofText "rules=\"r\"\nspeech=\x7b\x7d\nopenhab=\"h/\"")
    (by decide +kernel)
  obtain ⟨s, hs, rfl⟩ := exists_ok_of_toOption (f := id)
    (b := { rules := "r", itemServer := some "h" })
    (x := ofText "openhab=\"h\"\nrules=\"r\"\n[speech]") (by decide +kernel)
  have hserver : d.entries.value? "openhab" = some (.text "h") :=
    value?_of_text (by rw [htable]; rfl)
  have hserver' : d'.entries.value? "openhab" = some (.text "h/") :=
    value?_of_text (by rw [htable']; rfl)
  obtain ⟨origin, hspeech⟩ : ∃ origin, d.entries.value? "speech" = some (.table origin []) :=
    value?_of_table (by rw [htable]; rfl)
  obtain ⟨origin', hspeech'⟩ : ∃ origin, d'.entries.value? "speech" = some (.table origin []) :=
    value?_of_table (by rw [htable']; rfl)
  have hplain : ∀ key, key ≠ "openhab" → key ≠ "speech" →
      d.entries.value? key = d'.entries.value? key := by
    intro key hopenhab hspeech
    by_cases hrules : key = "rules"
    · subst hrules
      rw [value?_of_text (d := d) (s := "r") (by rw [htable]; rfl),
        value?_of_text (d := d') (s := "r") (by rw [htable']; rfl)]
    · rw [value?_of_none (d := d), value?_of_none (d := d')]
      · simp [htable', List.lookup_cons, beq_false_of_ne hopenhab, beq_false_of_ne hspeech,
          beq_false_of_ne hrules]
      · simp [htable, List.lookup_cons, beq_false_of_ne hopenhab, beq_false_of_ne hspeech,
          beq_false_of_ne hrules]
  have hsame : SayTheSame d.entries.value? d'.entries.value? := {
    plain := hplain
    server := .inr ⟨"h", "h/", ['h'], 0, 1, hserver, hserver', rfl, rfl⟩
    speech := .inr ⟨origin, [], origin', [], hspeech, hspeech', fun _ => rfl⟩ }
  have htables : SpeechIsTable d.entries.value? := by
    intro v hv
    rw [hspeech] at hv
    cases hv
    exact ⟨_, _, rfl⟩
  obtain ⟨hshape, -, hother⟩ := ofText_documented hd htables
  exact ⟨d, hd, htables, hshape.1 ⟨_, hs⟩, (hother _ _ hd' hsame _).1 hs⟩

end Settings
end ChordRules
