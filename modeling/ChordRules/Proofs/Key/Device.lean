import ChordRules.Key.Code
import ChordRules.Proofs.Key.Chord

/-! # Devices and texts

The events of a device and a text with a line for each of them are read along different ways, which
meet only where chords are made. Main statement: `feedOfBytes_deviceText`, which says that they give
the same chords. What it takes is that the line written for an event spells that event
(`RawEvent.ofLine_line`), and that every name of a key code can stand in a line. -/
namespace ChordRules

theorem isCode_of_isWordChar {code : String} (hne : code.toList ≠ [])
    (h : ∀ c ∈ code.toList, isWordChar c = true) : IsCode code where
  ne_empty := hne
  not_blank c hc := isBlank_of_isWordChar (h c hc)
  not_comment hhead := by
    have hword := h '#' (List.mem_of_head? hhead)
    revert hword
    decide

/-- The names of key codes are words. They are looked at byte by byte, which is faster. -/
theorem keyCodeNames_words :
    keyCodeNames.all (fun p => !p.2.toByteArray.data.toList.isEmpty &&
      p.2.toByteArray.data.toList.all fun b =>
        b < 128 && isWordChar (Char.ofNat b.toNat)) = true := by
  decide +kernel

/-- Every code that has a name has one that a line can spell. -/
theorem isCode_keyCodeName {code : Nat} (h : (keyCodeNames.lookup code).isSome = true) :
    IsCode (keyCodeName code) := by
  obtain ⟨name, hname⟩ := Option.isSome_iff_exists.1 h
  obtain ⟨before, later, htable, -⟩ := List.lookup_eq_some_iff.1 hname
  have hmem : (code, name) ∈ keyCodeNames := by simp [htable]
  have hword := List.all_eq_true.1 keyCodeNames_words _ hmem
  simp only [← utf8Bytes_eq_data, Bool.and_eq_true, Bool.not_eq_true', List.isEmpty_eq_false_iff,
    List.all_eq_true, decide_eq_true_eq] at hword
  obtain ⟨hne, hbytes⟩ := hword
  have hlist := toList_of_lt fun b hb => (hbytes b hb).1
  rw [keyCodeName, hname]
  refine isCode_of_isWordChar ?_ ?_
  · rw [Option.getD_some, hlist, List.ne_nil_iff_length_pos, List.length_map]
    exact List.length_pos_iff.2 hne
  · rw [Option.getD_some, hlist]
    intro c hc
    obtain ⟨b, hb, rfl⟩ := List.mem_map.1 hc
    exact (hbytes b hb).2

/-- The reader of a text takes the event from the line written for it. -/
theorem feedLine_line {e : RawEvent} (hcode : IsCode e.code) (hvalue : inWord32 e.value = true)
    (h : Held) :
    feedLine h (utf8Bytes e.line) =
      ((h.process e).1.map fun c => .chord c.1 c.2, (h.process e).2) := by
  simp only [feedLine, decodeUtf8?_utf8Bytes, RawEvent.ofLine_line hcode hvalue]

/-- The line of an event is one line. -/
theorem lineFeed_not_mem_line {e : RawEvent} (hcode : IsCode e.code) : '\n' ∉ e.line.toList := by
  intro hmem
  have hblank : isBlank '\n' = true := by decide
  simp only [RawEvent.line, String.toList_append, List.mem_append] at hmem
  rcases hmem with (hmem | hmem) | hmem
  · simp [hcode.not_blank _ hmem] at hblank
  · revert hmem
    decide
  · simp [(isNumeral_showInt e.value).not_blank _ hmem] at hblank

/-- The text of some events, a line for each, gives their chords and nothing else. -/
theorem feedLines_lines {es : List RawEvent}
    (hes : ∀ e ∈ es, IsCode e.code ∧ inWord32 e.value = true) (h : Held) :
    feedLines h ((utf8Bytes (String.join (es.map (·.line ++ "\n")))).splitOn 10) =
      ((h.chords es).filterMap id).map fun c => .chord c.1 c.2 := by
  induction es generalizing h with
  | nil =>
    rw [List.map_nil, String.join_nil, utf8Bytes_eq]
    rfl
  | cons e es ih =>
    obtain ⟨hcode, hvalue⟩ := hes e List.mem_cons_self
    have hbytes : utf8Bytes (String.join ((e :: es).map (·.line ++ "\n"))) =
        utf8Bytes e.line ++ 10 :: utf8Bytes (String.join (es.map (·.line ++ "\n"))) := by
      rw [List.map_cons, String.join_cons, utf8Bytes_append, utf8Bytes_append, List.append_assoc,
        utf8Bytes_eq "\n"]
      rfl
    rw [hbytes, List.splitOn_append_cons_self_of_not_mem
      (lineFeed_not_mem_utf8Bytes (lineFeed_not_mem_line hcode)), feedLines,
      feedLine_line hcode hvalue, ih fun f hf => hes f (List.mem_cons_of_mem e hf), Held.chords]
    cases (h.process e).1 <;> rfl

/-- The chords of a device's events, all made with the modifiers held in between. -/
def deviceChords (events : List InputEvent) : List (String × KeyState) :=
  (Held.none.chords (events.filterMap InputEvent.raw?)).filterMap id

/-- A line for each key event of a device: the name of its code, a blank and its value. -/
def deviceText (events : List InputEvent) : String :=
  String.join ((events.filter (·.kind = InputEvent.keyKind)).map fun e =>
    keyCodeName e.code ++ " " ++ showInt e.value ++ "\n")

theorem deviceText_eq (events : List InputEvent) :
    deviceText events =
      String.join ((events.filterMap InputEvent.raw?).map (·.line ++ "\n")) := by
  have hlines : (events.filter (·.kind = InputEvent.keyKind)).map
        (fun e => keyCodeName e.code ++ " " ++ showInt e.value ++ "\n") =
      (events.filterMap InputEvent.raw?).map (·.line ++ "\n") := by
    induction events with
    | nil => rfl
    | cons e events ih =>
      by_cases h : e.kind = InputEvent.keyKind
      · simp [InputEvent.raw?, h, ih, RawEvent.line]
      · simp [InputEvent.raw?, h, ih]
  rw [deviceText, hlines]

/-- If the codes of all key events have names, a device and the text with a line for each of its
key events give the same chords, whatever the values are. The text gives nothing else, neither
failures nor warnings. -/
theorem feedOfBytes_deviceText (events : List InputEvent)
    (hnames : ∀ e ∈ events, e.kind = InputEvent.keyKind →
      (keyCodeNames.lookup e.code).isSome = true)
    (hvalues : ∀ e ∈ events, -2147483648 ≤ e.value ∧ e.value ≤ 2147483647) :
    feedOfBytes (utf8Bytes (deviceText events)) =
      (deviceChords events).map fun c => .chord c.1 c.2 := by
  rw [feedOfBytes_eq_splitOn, deviceText_eq, deviceChords]
  refine feedLines_lines (fun raw hraw => ?_) Held.none
  obtain ⟨e, he, heq⟩ := List.mem_filterMap.1 hraw
  rw [InputEvent.raw?] at heq
  split at heq
  · next hkind =>
    cases heq
    have hrange := hvalues e he
    refine ⟨isCode_keyCodeName (hnames e he hkind), ?_⟩
    simp only [inWord32, Bool.and_eq_true, decide_eq_true_eq]
    omega
  · cases heq

/-- So it is with a modifier, a movement, and values that are no key states in between. -/
theorem feedOfBytes_deviceText_movement :
    ∃ events : List InputEvent, events = [⟨1, 97, 1⟩, ⟨2, 8, 5⟩, ⟨1, 30, -2147483648⟩,
        ⟨1, 23, 1⟩, ⟨1, 97, 2147483647⟩, ⟨1, 23, 0⟩] ∧
      deviceText events = "KEY_RIGHTCTRL 1\nKEY_A -2147483648\nKEY_I 1\n" ++
        "KEY_RIGHTCTRL 2147483647\nKEY_I 0\n" ∧
      feedOfBytes (utf8Bytes (deviceText events)) =
        [.chord "ctrl-i" .down, .chord "ctrl-i" .up] := by
  let events : List InputEvent := [⟨1, 97, 1⟩, ⟨2, 8, 5⟩, ⟨1, 30, -2147483648⟩,
    ⟨1, 23, 1⟩, ⟨1, 97, 2147483647⟩, ⟨1, 23, 0⟩]
  have hchords : deviceChords events = [("ctrl-i", .down), ("ctrl-i", .up)] := by decide +kernel
  have hfeed := feedOfBytes_deviceText events (by decide +kernel) (by decide +kernel)
  rw [hchords] at hfeed
  exact ⟨events, rfl, by decide +kernel, hfeed⟩

end ChordRules
