import ChordRules.Key.Event
import ChordRules.Proofs.Key.EventLine
import ChordRules.Proofs.Text.Utf8

/-! # What a feed gives, line by line

The reader of a text goes from line to line and keeps only which modifiers are held. What a line
gives is laid down in `Gives`, without reference to the reader; the modifiers held before it come
from the raw events in the lines before it (`heldAfter`). Lines that are noise neither give
anything, warnings apart, nor change which modifiers are held, so they can be anywhere. -/
namespace ChordRules

/-- `Gives h line item?`: what a line gives where the modifiers `h` are held. -/
inductive Gives (h : Held) (line : List UInt8) : Option FeedItem → Prop
  | notUtf8 (hline : decodeUtf8? line = none) : Gives h line (some (.failure .notUtf8))
  | blank {s : String} (hline : decodeUtf8? line = some s) (hs : IsBlankLine s) :
      Gives h line none
  | comment {s : String} (hline : decodeUtf8? line = some s) (hs : IsComment s) :
      Gives h line none
  | badShape {s text : String} (hline : decodeUtf8? line = some s)
      (hs : RawEvent.ofLine s = .error (.badShape text)) :
      Gives h line (some (.warning ⟨.warn, .events,
        "skipping event: " ++ ("expected `<CODE> <VALUE>`, got `" ++ text ++ "`")⟩))
  | badValue {s field : String} (hline : decodeUtf8? line = some s)
      (hs : RawEvent.ofLine s = .error (.badValue field)) :
      Gives h line (some (.warning ⟨.warn, .events,
        "skipping event: " ++ ("invalid key value `" ++ field ++ "`")⟩))
  | otherValue {s : String} {e : RawEvent} (hline : decodeUtf8? line = some s)
      (hs : RawEvent.ofLine s = .ok (some e))
      (hvalue : e.value ≠ 0 ∧ e.value ≠ 1 ∧ e.value ≠ 2) : Gives h line none
  | modifier {s : String} {e : RawEvent} (hline : decodeUtf8? line = some s)
      (hs : RawEvent.ofLine s = .ok (some e)) (hkey : isModifierKey e.keyName = true) :
      Gives h line none
  | chord {s : String} {e : RawEvent} {state : KeyState} (hline : decodeUtf8? line = some s)
      (hs : RawEvent.ofLine s = .ok (some e)) (hvalue : KeyState.ofValue? e.value = some state)
      (hkey : isModifierKey e.keyName = false) :
      Gives h line (some (.chord (chordName h e.keyName) state))

def lineEvent? (line : List UInt8) : Option RawEvent :=
  match (decodeUtf8? line).map RawEvent.ofLine with
  | some (.ok e?) => e?
  | some (.error _) | none => none

/-- The modifiers held after some lines: those of the raw events in them, one after the other. -/
def heldAfter (h : Held) (lines : List (List UInt8)) : Held :=
  (lines.filterMap lineEvent?).foldl (fun h e => (h.process e).2) h

/-- After one line, the reader holds what is held after the raw event in it. -/
theorem heldAfter_cons (h : Held) (line : List UInt8) (lines : List (List UInt8)) :
    heldAfter h (line :: lines) = heldAfter (feedLine h line).2 lines := by
  rw [heldAfter, heldAfter, feedLine, List.filterMap_cons]
  cases hline : decodeUtf8? line with
  | none => simp [lineEvent?, hline]
  | some s =>
    cases hs : RawEvent.ofLine s with
    | error fault => simp [lineEvent?, hline, hs]
    | ok e? => cases e? <;> simp [lineEvent?, hline, hs]

/-- A raw event gives a chord, or nothing if its value is no key state or its key a modifier. -/
theorem chord_process (h : Held) (e : RawEvent) :
    (h.process e).1 = (KeyState.ofValue? e.value).bind fun state =>
      if isModifierKey e.keyName then none else some (chordName h e.keyName, state) := by
  rw [Held.process]
  cases KeyState.ofValue? e.value with
  | none => rfl
  | some state =>
    simp only [Held.press, Option.bind_some]
    split <;> rfl

/-- The reader takes from each line what the line gives. -/
theorem gives_iff {h : Held} {line : List UInt8} {item? : Option FeedItem} :
    Gives h line item? ↔ item? = (feedLine h line).1 := by
  constructor
  · rintro (⟨hline⟩ | ⟨hline, hs⟩ | ⟨hline, hs⟩ | ⟨hline, hs⟩ | ⟨hline, hs⟩ |
      ⟨hline, hs, hvalue⟩ | ⟨hline, hs, hkey⟩ | ⟨hline, hs, hvalue, hkey⟩)
    · simp [feedLine, hline]
    · simp [feedLine, hline, RawEvent.ofLine_eq_ok_none_iff.2 (.inl hs)]
    · simp [feedLine, hline, RawEvent.ofLine_eq_ok_none_iff.2 (.inr hs)]
    · simp only [feedLine, hline, hs]
      rfl
    · simp only [feedLine, hline, hs]
      rfl
    · simp [feedLine, hline, hs, chord_process, KeyState.ofValue?_eq_none_iff.2 hvalue]
    · simp [feedLine, hline, hs, chord_process, hkey]
    · simp [feedLine, hline, hs, chord_process, hvalue, hkey]
  · rintro rfl
    rw [feedLine]
    cases hline : decodeUtf8? line with
    | none => exact .notUtf8 hline
    | some s =>
      simp only
      cases hs : RawEvent.ofLine s with
      | error fault =>
        cases fault with
        | badShape text => exact .badShape hline hs
        | badValue field => exact .badValue hline hs
      | ok e? =>
        cases e? with
        | none =>
          rcases RawEvent.ofLine_eq_ok_none_iff.1 hs with hs | hs
          · exact .blank hline hs
          · exact .comment hline hs
        | some e =>
          simp only [chord_process]
          cases hvalue : KeyState.ofValue? e.value with
          | none => exact .otherValue hline hs (KeyState.ofValue?_eq_none_iff.1 hvalue)
          | some state =>
            cases hkey : isModifierKey e.keyName with
            | true => exact .modifier hline hs hkey
            | false => exact .chord hline hs hvalue hkey

/-- The items of a feed are what its lines give, each with the modifiers held after the lines
before it. -/
theorem feedLines_eq_mapIdx (h : Held) (lines : List (List UInt8)) :
    feedLines h lines =
      (lines.mapIdx fun i line => (feedLine (heldAfter h (lines.take i)) line).1).filterMap id := by
  induction lines generalizing h with
  | nil => rfl
  | cons line lines ih =>
    rw [feedLines, ih, List.mapIdx_cons]
    simp only [List.take_zero, List.take_succ_cons, heldAfter_cons]
    cases hitem : (feedLine h line).1 with
    | none => simp [heldAfter, hitem]
    | some item => simp [heldAfter, hitem]

/-- Cut at line feeds, a text gives the same items whether or not its lines keep them, and whether
or not it ends with one. -/
theorem feedOfBytes_eq_splitOn (bytes : List UInt8) :
    feedOfBytes bytes = feedLines .none (bytes.splitOn 10) := by
  suffices h : ∀ h, feedLines h (byteLines bytes) = feedLines h (bytes.splitOn 10) from h .none
  induction bytes using line_induction with
  | last line hline =>
    intro h
    rw [byteLines_last hline, List.splitOn_eq_singleton hline]
    split
    · next hnil =>
      subst hnil
      rfl
    · rfl
  | line line rest hline ih =>
    intro h
    have hfeed : feedLine h (line ++ [10]) = feedLine h line := by
      rw [feedLine, feedLine, decodeUtf8?_concat_lineFeed]
      cases decodeUtf8? line with
      | none => rfl
      | some s => simp only [Option.map_some, RawEvent.ofLine_lineFeed]
    rw [byteLines_line hline, List.splitOn_append_cons_self_of_not_mem hline, feedLines, feedLines,
      hfeed, ih]

/-- A line that spells no key state: it is blank, a comment, malformed, or has another value. -/
inductive IsNoise (line : List UInt8) : Prop
  | blank {s : String} (hline : decodeUtf8? line = some s) (hs : IsBlankLine s)
  | comment {s : String} (hline : decodeUtf8? line = some s) (hs : IsComment s)
  | malformed {s : String} {fault : EventFault} (hline : decodeUtf8? line = some s)
      (hs : RawEvent.ofLine s = .error fault)
  | otherValue {s : String} {e : RawEvent} (hline : decodeUtf8? line = some s)
      (hs : RawEvent.ofLine s = .ok (some e))
      (hvalue : e.value ≠ 0 ∧ e.value ≠ 1 ∧ e.value ≠ 2)

def FeedItem.isWarning : FeedItem → Bool
  | warning _ => true
  | chord .. | failure _ => false

def emitted (items : List FeedItem) : List FeedItem := items.filter fun item => !item.isWarning

@[simp] theorem emitted_append (items more : List FeedItem) :
    emitted (items ++ more) = emitted items ++ emitted more := List.filter_append ..

/-- Noise emits nothing and leaves the modifiers as they are. -/
theorem IsNoise.feedLine {line : List UInt8} (hn : IsNoise line) (h : Held) :
    emitted (feedLine h line).1.toList = [] ∧ (feedLine h line).2 = h := by
  rcases hn with ⟨hline, hs⟩ | ⟨hline, hs⟩ | ⟨hline, hs⟩ | ⟨hline, hs, hvalue⟩
  · simp [ChordRules.feedLine, hline, RawEvent.ofLine_eq_ok_none_iff.2 (.inl hs), emitted]
  · simp [ChordRules.feedLine, hline, RawEvent.ofLine_eq_ok_none_iff.2 (.inr hs), emitted]
  · simp [ChordRules.feedLine, hline, hs, emitted, FeedItem.isWarning]
  · simp [ChordRules.feedLine, hline, hs, emitted, Held.process,
      KeyState.ofValue?_eq_none_iff.2 hvalue]

/-- Lines emit the same when noise is left out of them. -/
theorem emitted_feedLines_filter {keep : List UInt8 → Bool}
    (hkeep : ∀ line, keep line = false → IsNoise line) (h : Held) (lines : List (List UInt8)) :
    emitted (feedLines h (lines.filter keep)) = emitted (feedLines h lines) := by
  induction lines generalizing h with
  | nil => rfl
  | cons line lines ih =>
    cases hline : keep line with
    | true =>
      rw [List.filter_cons_of_pos hline, feedLines, feedLines, emitted_append, emitted_append, ih]
    | false =>
      obtain ⟨hquiet, hheld⟩ := (hkeep line hline).feedLine h
      rw [List.filter_cons_of_neg (by simp [hline]), feedLines, emitted_append, hquiet, hheld, ih,
        List.nil_append]

/-- Texts emit the same if their lines differ in noise only. -/
theorem emitted_feedOfBytes_congr {keep : List UInt8 → Bool}
    (hkeep : ∀ line, keep line = false → IsNoise line) {bytes bytes' : List UInt8}
    (h : (bytes.splitOn 10).filter keep = (bytes'.splitOn 10).filter keep) :
    emitted (feedOfBytes bytes) = emitted (feedOfBytes bytes') := by
  rw [feedOfBytes_eq_splitOn, feedOfBytes_eq_splitOn, ← emitted_feedLines_filter hkeep, h,
    emitted_feedLines_filter hkeep]

theorem isNoise_nil : IsNoise [] :=
  .blank (s := "") (by rw [decodeUtf8?_eq_some_iff]; rfl) (by simp [IsBlankLine])

/-- Noise can be put in wherever a line begins, as whole lines. -/
theorem emitted_feedOfBytes_insert {before noise after : List UInt8} (hbefore : EndsLine before)
    (hnoise : ∀ line ∈ noise.splitOn 10, IsNoise line) (hend : EndsLine noise ∨ after = []) :
    emitted (feedOfBytes (before ++ noise ++ after)) =
      emitted (feedOfBytes (before ++ after)) := by
  classical
  let keep : List UInt8 → Bool := fun line => decide (¬ IsNoise line)
  have hkeep : ∀ line, keep line = false → IsNoise line := by simp [keep]
  have hdropped : ∀ lines : List (List UInt8), (∀ line ∈ lines, IsNoise line) →
      lines.filter keep = [] := by
    intro lines hlines
    simpa [keep, List.filter_eq_nil_iff] using hlines
  obtain ⟨front, hfront⟩ := hbefore.exists_splitOn
  refine emitted_feedOfBytes_congr hkeep ?_
  rw [List.append_assoc, hfront, hfront, List.filter_append, List.filter_append]
  rcases hend with hend | rfl
  · obtain ⟨lines, hlines⟩ := hend.exists_splitOn
    have hsplit := hlines []
    rw [List.append_nil] at hsplit
    have hquiet : lines.filter keep = [] :=
      hdropped lines fun line hline => hnoise line (by simp [hsplit, hline])
    rw [hlines, List.filter_append, hquiet, List.nil_append]
  · have hlast : ∀ line ∈ [[]], IsNoise line := by simp [isNoise_nil]
    rw [List.append_nil, List.splitOn_nil, hdropped _ hnoise, hdropped _ hlast]

/-- The items of a text come line by line, the lines being what stands between line feeds. Each
line gives exactly what is laid down for it where the modifiers are held that the raw events in the
lines before it leave. Hence what is emitted does not change when lines of noise are left out or
put in, wherever they are; in particular when whole lines of noise are put in where a line begins. -/
theorem feedOfBytes_gives (bytes : List UInt8) :
    (∃ items : List (Option FeedItem),
      items.length = (bytes.splitOn 10).length ∧
      feedOfBytes bytes = items.filterMap id ∧
      ∀ i line item?, (bytes.splitOn 10)[i]? = some line →
        (items[i]? = some item? ↔
          Gives (heldAfter .none ((bytes.splitOn 10).take i)) line item?)) ∧
    (∀ (keep : List UInt8 → Bool) (bytes' : List UInt8),
      (∀ line, keep line = false → IsNoise line) →
      (bytes.splitOn 10).filter keep = (bytes'.splitOn 10).filter keep →
      emitted (feedOfBytes bytes) = emitted (feedOfBytes bytes')) ∧
    ∀ before noise after, bytes = before ++ after → EndsLine before →
      (∀ line ∈ noise.splitOn 10, IsNoise line) → EndsLine noise ∨ after = [] →
      emitted (feedOfBytes (before ++ noise ++ after)) = emitted (feedOfBytes bytes) := by
  refine ⟨⟨(bytes.splitOn 10).mapIdx fun i line =>
    (feedLine (heldAfter .none ((bytes.splitOn 10).take i)) line).1, by simp, ?_, ?_⟩,
    fun keep bytes' hkeep h => emitted_feedOfBytes_congr hkeep h, ?_⟩
  · rw [feedOfBytes_eq_splitOn, feedLines_eq_mapIdx]
  · intro i line item? hline
    rw [List.getElem?_mapIdx, hline, Option.map_some, Option.some_inj, gives_iff, eq_comm]
  · rintro before noise after rfl hbefore hnoise hend
    exact emitted_feedOfBytes_insert hbefore hnoise hend

/-- So it is with a shifted key between which and its modifier a malformed line and a comment are
put in, or only the malformed one, and behind which a value of 4 stands. The malformed line gives
its warning, as does a value that is no number. -/
theorem feedOfBytes_gives_shift :
    ∃ before noise after : List UInt8,
      before = utf8Bytes "KEY_LEFTSHIFT 1\n" ∧ noise = utf8Bytes "bogus\n # KEY_A\n" ∧
      after = utf8Bytes "KEY_A 1\nKEY_LEFTSHIFT 4" ∧
      EndsLine before ∧ EndsLine noise ∧ (∀ line ∈ noise.splitOn 10, IsNoise line) ∧
      (∃ items : List (Option FeedItem), feedOfBytes (before ++ after) = items.filterMap id ∧
        items[1]? = some (some (.chord "shift-a" .down))) ∧
      emitted (feedOfBytes (before ++ noise ++ after)) = [.chord "shift-a" .down] ∧
      emitted (feedOfBytes (before ++ utf8Bytes "bogus\n" ++ after)) =
        [.chord "shift-a" .down] ∧
      (∃ items : List (Option FeedItem),
        feedOfBytes (before ++ noise ++ after) = items.filterMap id ∧
        items[1]? = some (some (.warning ⟨.warn, .events,
          "skipping event: expected `<CODE> <VALUE>`, got `bogus`"⟩))) ∧
      feedOfBytes (before ++ noise ++ after) = [.warning ⟨.warn, .events,
        "skipping event: expected `<CODE> <VALUE>`, got `bogus`"⟩, .chord "shift-a" .down] ∧
      Gives .none (utf8Bytes "KEY_A x") (some (.warning ⟨.warn, .events,
        "skipping event: invalid key value `x`"⟩)) := by
  let before := utf8Bytes "KEY_LEFTSHIFT 1\n"
  let noise := utf8Bytes "bogus\n # KEY_A\n"
  let after := utf8Bytes "KEY_A 1\nKEY_LEFTSHIFT 4"
  let keep : List UInt8 → Bool := fun line => line != utf8Bytes "bogus"
  have hmalformed : IsNoise (utf8Bytes "bogus") := by
    have hshape : RawEvent.ofLine "bogus" = .error (.badShape "bogus") := by decide +kernel
    exact .malformed (by decide +kernel) hshape
  have hcomment : IsNoise (utf8Bytes " # KEY_A") :=
    .comment (s := " # KEY_A") (by decide +kernel)
      ⟨[' '], " KEY_A".toList, by decide +kernel, List.forall_mem_singleton.2 (by decide)⟩
  have hbefore : EndsLine before := .inr (by decide +kernel)
  have hnoise : EndsLine noise := .inr (by decide +kernel)
  have hlines : ∀ line ∈ noise.splitOn 10, IsNoise line := by
    have hsplit : noise.splitOn 10 = [utf8Bytes "bogus", utf8Bytes " # KEY_A", []] := by
      decide +kernel
    simp [hsplit, hmalformed, hcomment, isNoise_nil]
  have hkeep : ∀ line, keep line = false → IsNoise line := by
    intro line hline
    obtain rfl : line = utf8Bytes "bogus" := by simpa [keep] using hline
    exact hmalformed
  obtain ⟨⟨items, -, hfeed, hgives⟩, hfilter, hinsert⟩ := feedOfBytes_gives (before ++ after)
  have hshift : emitted (feedOfBytes (before ++ after)) = [.chord "shift-a" .down] := by
    decide +kernel
  have hchord : items[1]? = some (some (.chord "shift-a" .down)) :=
    (hgives 1 (utf8Bytes "KEY_A 1") _ (by decide +kernel)).2 (gives_iff.2 (by decide +kernel))
  obtain ⟨⟨items', -, hfeed', hgives'⟩, -⟩ := feedOfBytes_gives (before ++ noise ++ after)
  have hwarning : items'[1]? = some (some (.warning ⟨.warn, .events,
      "skipping event: expected `<CODE> <VALUE>`, got `bogus`"⟩)) :=
    (hgives' 1 (utf8Bytes "bogus") _ (by decide +kernel)).2 (gives_iff.2 (by decide +kernel))
  exact ⟨before, noise, after, rfl, rfl, rfl, hbefore, hnoise, hlines, ⟨items, hfeed, hchord⟩,
    (hinsert before noise after rfl hbefore hlines (.inl hnoise)).trans hshift,
    (hfilter keep _ hkeep (by decide +kernel)).symm.trans hshift, ⟨items', hfeed', hwarning⟩,
    by decide +kernel, gives_iff.2 (by decide +kernel)⟩

end ChordRules
