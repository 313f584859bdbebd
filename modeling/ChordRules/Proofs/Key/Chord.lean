import ChordRules.Proofs.Key.Feed
import Mathlib.Data.List.Infix

/-! # What chords tell

Three flags are all that is kept of the keys pressed so far. What they stand for is said in terms of
the history: a modifier is named exactly if the latest event of its keys is no release
(`chords_history`). Several keys may share a modifier, and the flag does not tell them apart. So a
modifier that a chord names is held, but one that is held can be missing, namely after another of
its keys has been released (`press_names_held_iff`, `press_forgets_second_key`).

A chord is the key's own name behind a front that the held modifiers alone decide
(`toList_chordName`). Dashes do not tell where the front ends, for the key may hold dashes too, or
be empty. But a key that gives a chord holds the name of no modifier: so the chord holds just the
names of those that are held (`infix_chordName_iff`), its front is known, and the key is what is
left (`press_unambiguous`). -/
namespace ChordRules

/-- A text holds another one if that is an infix of it. -/
theorem holdsText_iff {part text : List Char} : holdsText part text = true ↔ part <:+: text := by
  induction text with
  | nil => simp [holdsText]
  | cons c cs ih => rw [holdsText, Bool.or_eq_true, List.isPrefixOf_iff_prefix, ih,
      List.infix_cons_iff]

theorem Modifier.isIn_iff {m : Modifier} {key : String} :
    m.isIn key = true ↔ m.name.toList <:+: key.toList := holdsText_iff

/-- A text without the divider does not reach across it. -/
theorem infix_append_cons_iff {part xs ys : List α} {a : α} (h : a ∉ part) :
    part <:+: xs ++ a :: ys ↔ part <:+: xs ∨ part <:+: ys := by
  constructor
  · rintro ⟨before, after, heq⟩
    rw [List.append_assoc] at heq
    rcases List.append_eq_append_iff.1 heq with ⟨mid, rfl, hmid⟩ | ⟨mid, rfl, hmid⟩
    · rcases List.append_eq_append_iff.1 hmid with ⟨rest, rfl, -⟩ | ⟨rest, rfl, hrest⟩
      · exact .inl ⟨before, rest, by simp⟩
      · cases rest with
        | nil => exact .inl ⟨before, [], by simp⟩
        | cons b rest =>
          cases hrest
          exact absurd (by simp) h
    · cases mid with
      | nil =>
        cases part with
        | nil => exact .inl List.nil_infix
        | cons b part =>
          cases hmid
          exact absurd List.mem_cons_self h
      | cons b mid =>
        cases hmid
        exact .inr ⟨mid, after, by simp⟩
  · rintro (hin | hin)
    · exact hin.trans (List.infix_append [] xs (a :: ys))
    · exact hin.trans ⟨xs ++ [a], [], by simp⟩

/-- Dashes stand between names. -/
theorem dashed_eq_intercalate (names : List String) : dashed names = "-".intercalate names := by
  induction names with
  | nil => simp [dashed]
  | cons s names ih =>
    cases names with
    | nil => simp [dashed]
    | cons t names => rw [dashed, ih, String.intercalate_cons_cons]

/-- What is in dashed names and has no dash itself is in one of them. -/
theorem infix_dashed_iff {part : List Char} (hpart : '-' ∉ part) (hne : part ≠ [])
    (names : List String) :
    part <:+: (dashed names).toList ↔ ∃ s ∈ names, part <:+: s.toList := by
  induction names with
  | nil => simp [dashed, hne]
  | cons s names ih =>
    cases names with
    | nil => simp [dashed]
    | cons t names =>
      have hdash : (dashed (s :: t :: names)).toList =
          s.toList ++ '-' :: (dashed (t :: names)).toList := by simp [dashed]
      rw [hdash, infix_append_cons_iff hpart, ih]
      simp only [List.mem_cons, exists_eq_or_imp]

/-- A chord of a key that is no modifier tells which modifiers are held. -/
theorem infix_chordName_iff {key : String} (hkey : ∀ m : Modifier, ¬ m.name.toList <:+: key.toList)
    (h : Held) (m : Modifier) :
    m.name.toList <:+: (chordName h key).toList ↔ h.holds m = true := by
  have hname : ∀ k : Modifier, m.name.toList <:+: k.name.toList ↔ m = k := by
    cases m <;> intro k <;> cases k <;> decide
  rw [chordName, infix_dashed_iff (by cases m <;> decide) (by cases m <;> decide)]
  constructor
  · rintro ⟨s, hs, hin⟩
    rcases List.mem_append.1 hs with hs | hs
    · obtain ⟨k, hk, rfl⟩ := List.mem_map.1 hs
      rw [(hname k).1 hin]
      exact (List.mem_filter.1 hk).2
    · rw [List.mem_singleton.1 hs] at hin
      exact absurd hin (hkey m)
  · intro hm
    refine ⟨m.name, List.mem_append_left _ (List.mem_map_of_mem ?_), List.infix_refl _⟩
    exact List.mem_filter.2 ⟨m.mem_all, hm⟩

theorem isModifierKey_eq_false_iff {key : String} :
    isModifierKey key = false ↔ ∀ m : Modifier, ¬ m.name.toList <:+: key.toList := by
  simp only [isModifierKey, List.any_eq_false, Modifier.isIn_iff]
  exact ⟨fun h m => h m m.mem_all, fun h m _ => h m⟩

/-- A key changes the modifiers that its name holds, all of them, and no other. -/
theorem Held.holds_press (h : Held) (key : String) (state : KeyState) (m : Modifier) :
    (h.press key state).2.holds m = if m.isIn key then state != .up else h.holds m := by
  rw [Held.press]
  cases hkey : isModifierKey key with
  | true => exact Held.holds_update h _ m
  | false =>
    have hm : ¬ m.isIn key = true := fun hm =>
      isModifierKey_eq_false_iff.1 hkey m (Modifier.isIn_iff.1 hm)
    rw [if_neg hm]
    rfl

def Tells (m : Modifier) (e : RawEvent) : Prop :=
  (e.value = 0 ∨ e.value = 1 ∨ e.value = 2) ∧ m.name.toList <:+: e.keyName.toList

instance (m : Modifier) : DecidablePred (Tells m) := fun e =>
  inferInstanceAs (Decidable ((e.value = 0 ∨ e.value = 1 ∨ e.value = 2) ∧ _ <:+: _))

/-- An event tells whether its modifiers are held, and leaves the others as they are. -/
theorem Held.holds_process (h : Held) (e : RawEvent) (m : Modifier) :
    (h.process e).2.holds m = if Tells m e then decide (e.value ≠ 0) else h.holds m := by
  rw [Held.process]
  cases hstate : KeyState.ofValue? e.value with
  | none =>
    have hvalue := KeyState.ofValue?_eq_none_iff.1 hstate
    have htells : ¬ Tells m e := fun ht => by rcases ht.1 with h | h | h <;> simp_all
    rw [if_neg htells]
  | some state =>
    have hvalue := KeyState.ofValue?_eq_some_iff.1 hstate
    have hup : (state != .up) = decide (e.value ≠ 0) := by
      cases state <;> simp only at hvalue <;> rw [hvalue] <;> rfl
    have htells : Tells m e ↔ m.isIn e.keyName = true := by
      rw [Modifier.isIn_iff, Tells, and_iff_right_iff_imp]
      intro _
      cases state <;> simp_all
    simp only [Held.holds_press, hup, htells]

namespace Held

def after (h : Held) (es : List RawEvent) : Held := es.foldl (fun h e => (h.process e).2) h

def chords (h : Held) : List RawEvent → List (Option (String × KeyState))
  | [] => []
  | e :: es => (h.process e).1 :: (h.process e).2.chords es

@[simp] theorem length_chords (h : Held) (es : List RawEvent) :
    (h.chords es).length = es.length := by
  induction es generalizing h with
  | nil => rfl
  | cons e es ih => rw [chords, List.length_cons, ih, List.length_cons]

/-- More events go on with the modifiers that those before have left. -/
theorem chords_append (h : Held) (es fs : List RawEvent) :
    h.chords (es ++ fs) = h.chords es ++ (h.after es).chords fs := by
  induction es generalizing h with
  | nil => rfl
  | cons e es ih => rw [List.cons_append, chords, chords, ih]; rfl

theorem getElem?_chords (h : Held) (es : List RawEvent) (i : Nat) :
    (h.chords es)[i]? = es[i]?.map fun e => ((h.after (es.take i)).process e).1 := by
  induction es generalizing h i with
  | nil => rfl
  | cons e es ih =>
    cases i with
    | zero => rfl
    | succ i =>
      rw [chords, List.getElem?_cons_succ, ih, List.getElem?_cons_succ]
      rfl

end Held

/-- The latest event that tells a state of a key of the modifier tells no release. -/
def Active (m : Modifier) (es : List RawEvent) : Prop :=
  ∃ e ∈ es.reverse.find? (Tells m ·), e.value ≠ 0

instance (m : Modifier) (es : List RawEvent) : Decidable (Active m es) :=
  inferInstanceAs (Decidable (∃ e ∈ es.reverse.find? (Tells m ·), e.value ≠ 0))

/-- A flag that each step sets or leaves alone is left by a run as the latest step that sets it
says. -/
theorem flag_foldl_iff {σ : Type} (flag : σ → Bool) {step : σ → α → σ} {sets : α → Prop}
    [DecidablePred sets] {up : α → Bool}
    (hstep : ∀ s a, flag (step s a) = if sets a then up a else flag s) {s : σ}
    (hs : flag s = false) (l : List α) :
    flag (l.foldl step s) = true ↔ ∃ a ∈ l.reverse.find? (sets ·), up a = true := by
  induction l using List.reverseRecOn with
  | nil => simp [hs]
  | append_singleton l a ih =>
    rw [List.foldl_append, List.foldl_cons, List.foldl_nil, hstep, List.reverse_append,
      List.reverse_singleton, List.singleton_append, List.find?_cons]
    by_cases h : sets a
    · simp [h]
    · simpa [h] using ih

/-- The flags stand for the latest events of their keys. -/
theorem holds_after_iff (es : List RawEvent) (m : Modifier) :
    (Held.none.after es).holds m = true ↔ Active m es := by
  have hflag := flag_foldl_iff (fun h : Held => h.holds m) (fun h e => h.holds_process e m)
    (Held.holds_none m) es
  simpa only [Held.after, Active, decide_eq_true_eq] using hflag

/-- An event that tells of no modifier changes none. -/
theorem Held.process_of_not_tells {e : RawEvent} (he : ∀ m, ¬ Tells m e) (h : Held) :
    (h.process e).2 = h :=
  Held.ext_holds fun m => by rw [Held.holds_process, if_neg (he m)]

/-- An event that tells no state of a modifier can be left out. -/
theorem eraseIdx_chords {e : RawEvent} (he : ∀ m, ¬ Tells m e) (h : Held)
    (before later : List RawEvent) :
    (h.chords (before ++ e :: later)).eraseIdx before.length = h.chords (before ++ later) := by
  have hlength : (h.chords before).length = before.length := Held.length_chords h before
  rw [Held.chords_append, Held.chords_append, ← hlength, List.eraseIdx_append_of_length_le le_rfl,
    Nat.sub_self, Held.chords, List.eraseIdx_cons_zero, Held.process_of_not_tells he]

/-- An event gives its chord unless its value is no key state or its key a modifier; the chord
names the modifiers that the events before it leave active. -/
theorem process_eq_some_iff {h : Held} {e : RawEvent} {chord : String} {state : KeyState} :
    (h.process e).1 = some (chord, state) ↔
      KeyState.ofValue? e.value = some state ∧
        (∀ m : Modifier, ¬ m.name.toList <:+: e.keyName.toList) ∧
        chord = chordName h e.keyName := by
  rw [chord_process, Option.bind_eq_some_iff, ← isModifierKey_eq_false_iff]
  constructor
  · rintro ⟨s, hs, hchord⟩
    split at hchord
    · cases hchord
    · next hkey =>
      cases hchord
      exact ⟨hs, by simpa using hkey, rfl⟩
  · rintro ⟨hs, hkey, rfl⟩
    exact ⟨state, hs, by rw [hkey]; rfl⟩

/-- Over any row of events: the output of each tells its state and names, in order, the modifiers
whose latest event before it is no release; it is there exactly if the value is a key state and
the key no modifier. An event with another value or of another key can be left out without any
change to the other outputs, and an event that tells of several modifiers moves them all. -/
theorem chords_history (es : List RawEvent) :
    (Held.none.chords es).length = es.length ∧
    (∀ i e, es[i]? = some e → ∀ chord state,
      (Held.none.chords es)[i]? = some (some (chord, state)) ↔
        (e.value = 0 ∧ state = .up ∨ e.value = 1 ∧ state = .down ∨ e.value = 2 ∧ state = .hold) ∧
        (∀ m : Modifier, ¬ m.name.toList <:+: e.keyName.toList) ∧
        chord = "-".intercalate (([.alt, .ctrl, .shift].filter (Active · (es.take i))).map
          Modifier.name ++ [e.keyName])) ∧
    ∀ before e later, es = before ++ e :: later →
      (e.value ≠ 0 ∧ e.value ≠ 1 ∧ e.value ≠ 2 ∨
          (∀ m : Modifier, ¬ m.name.toList <:+: e.keyName.toList) →
        (Held.none.chords es).eraseIdx before.length = Held.none.chords (before ++ later)) ∧
      (e.value = 0 ∨ e.value = 1 ∨ e.value = 2 →
        ∀ m : Modifier, m.name.toList <:+: e.keyName.toList →
          ((Held.none.after (before ++ [e])).holds m = true ↔ e.value ≠ 0)) := by
  refine ⟨Held.length_chords _ _, ?_, ?_⟩
  · intro i e he chord state
    have hactive : Modifier.all.filter (Held.none.after (es.take i)).holds =
        [.alt, .ctrl, .shift].filter (Active · (es.take i)) :=
      List.filter_congr fun m _ => by rw [Bool.eq_iff_iff, holds_after_iff, decide_eq_true_eq]
    have hstate : KeyState.ofValue? e.value = some state ↔ (e.value = 0 ∧ state = .up ∨
        e.value = 1 ∧ state = .down ∨ e.value = 2 ∧ state = .hold) := by
      rw [KeyState.ofValue?_eq_some_iff]
      cases state <;> simp
    rw [Held.getElem?_chords, he, Option.map_some, Option.some_inj, process_eq_some_iff, hstate,
      chordName, hactive, dashed_eq_intercalate]
  · rintro before e later rfl
    constructor
    · intro hother
      refine eraseIdx_chords (fun m ht => ?_) _ before later
      rcases hother with hvalue | hkey
      · have hstate := ht.1
        omega
      · exact hkey m ht.2
    · intro hvalue m hm
      rw [Held.after, List.foldl_append, List.foldl_cons, List.foldl_nil, Held.holds_process,
        if_pos ⟨hvalue, hm⟩, decide_eq_true_eq]

/-- So it is with two modifiers that one event releases, and a value of 7 in between. -/
theorem chords_history_released :
    ∃ es : List RawEvent, es = [⟨"KEY_LEFTCTRL", 1⟩, ⟨"KEY_RIGHTALT", 2⟩, ⟨"KEY_A", 7⟩,
        ⟨"KEY_A", 1⟩, ⟨"KEY_CTRL_ALT", 0⟩, ⟨"KEY_A", 0⟩] ∧
      (Held.none.chords es)[3]? = some (some ("alt-ctrl-a", .down)) ∧
      (Held.none.chords es)[5]? = some (some ("a", .up)) ∧
      (Held.none.chords es).eraseIdx 2 = Held.none.chords (es.eraseIdx 2) := by
  let es : List RawEvent := [⟨"KEY_LEFTCTRL", 1⟩, ⟨"KEY_RIGHTALT", 2⟩, ⟨"KEY_A", 7⟩,
    ⟨"KEY_A", 1⟩, ⟨"KEY_CTRL_ALT", 0⟩, ⟨"KEY_A", 0⟩]
  obtain ⟨-, hgives, hleave⟩ := chords_history es
  have hkey : ∀ m : Modifier, ¬ m.name.toList <:+: (⟨"KEY_A", 1⟩ : RawEvent).keyName.toList :=
    isModifierKey_eq_false_iff.1 (by decide +kernel)
  exact ⟨es, rfl,
    (hgives 3 ⟨"KEY_A", 1⟩ rfl _ _).2 ⟨by decide, hkey, by decide +kernel⟩,
    (hgives 5 ⟨"KEY_A", 0⟩ rfl _ _).2 ⟨by decide, hkey, by decide +kernel⟩,
    (hleave (es.take 2) ⟨"KEY_A", 7⟩ (es.drop 3) rfl).1 (.inl (by decide))⟩

namespace Held

/-- The modifiers held after some changes of keys, each given by the key's name and new state. -/
def afterChanges (h : Held) (changes : List (String × KeyState)) : Held :=
  changes.foldl (fun h c => (h.press c.1 c.2).2) h

end Held

def lastChange? (m : Modifier) (changes : List (String × KeyState)) : Option (String × KeyState) :=
  changes.reverse.find? fun c => m.name.toList <:+: c.1.toList

def KeyHeld (key : String) (changes : List (String × KeyState)) : Prop :=
  ∃ c ∈ changes.reverse.find? (·.1 = key), c.2 ≠ .up

def KeyOfHeld (m : Modifier) (changes : List (String × KeyState)) : Prop :=
  ∃ key : String, m.name.toList <:+: key.toList ∧ KeyHeld key changes

/-- A flag is up exactly if the latest change of its keys is no release. -/
theorem holds_afterChanges_iff (changes : List (String × KeyState)) (m : Modifier) :
    (Held.none.afterChanges changes).holds m = true ↔
      ∃ c ∈ lastChange? m changes, c.2 ≠ .up := by
  have hstep : ∀ (h : Held) (c : String × KeyState), (h.press c.1 c.2).2.holds m =
      if m.name.toList <:+: c.1.toList then c.2 != .up else h.holds m := fun h c => by
    simp only [Held.holds_press, Modifier.isIn_iff]
  have hflag := flag_foldl_iff (fun h : Held => h.holds m) hstep (Held.holds_none m) changes
  simpa only [Held.afterChanges, lastChange?, bne_iff_ne] using hflag

/-- What comes first among more comes first among fewer, if it is one of them. -/
theorem find?_of_imp {p q : α → Bool} {l : List α} {a : α} (h : l.find? p = some a)
    (hqp : ∀ b, q b = true → p b = true) (ha : q a = true) : l.find? q = some a := by
  obtain ⟨-, before, later, rfl, hbefore⟩ := List.find?_eq_some_iff_append.1 h
  refine List.find?_eq_some_iff_append.2 ⟨ha, before, later, rfl, fun b hb => ?_⟩
  have hp := hbefore b hb
  cases hq : q b with
  | true => simp [hqp b hq] at hp
  | false => rfl

/-- The key that brought the flag up is held. -/
theorem keyOfHeld_of_lastChange? {m : Modifier} {changes : List (String × KeyState)}
    {c : String × KeyState} (h : lastChange? m changes = some c) (hc : c.2 ≠ .up) :
    KeyOfHeld m changes := by
  have hkey : m.name.toList <:+: c.1.toList := by simpa using List.find?_some h
  refine ⟨c.1, hkey, c, ?_, hc⟩
  refine find?_of_imp h (fun b hb => ?_) (by simp)
  rw [of_decide_eq_true hb]
  exact decide_eq_true hkey

theorem lastChange?_ne_none {m : Modifier} {changes : List (String × KeyState)}
    (h : KeyOfHeld m changes) : lastChange? m changes ≠ none := by
  obtain ⟨key, hkey, c, hc, -⟩ := h
  intro hnone
  have hmem := List.mem_of_find?_eq_some hc
  have heq : c.1 = key := by simpa using List.find?_some hc
  have hno := List.find?_eq_none.1 hnone c hmem
  rw [heq] at hno
  exact hno (decide_eq_true hkey)

/-- After any changes of keys, a key that is no modifier gives a chord. It names a modifier only if
some key of that modifier is held, and it fails to name one of which a key is held exactly if the
latest change of a key of that modifier is a release. -/
theorem press_names_held_iff (changes : List (String × KeyState)) (key : String)
    (state : KeyState) (hkey : ∀ m : Modifier, ¬ m.name.toList <:+: key.toList) :
    ∃ chord, ((Held.none.afterChanges changes).press key state).1 = some chord ∧
      ∀ m : Modifier,
        (m.name.toList <:+: chord.toList → KeyOfHeld m changes) ∧
        ((m.name.toList <:+: chord.toList ↔ KeyOfHeld m changes) ↔
          ¬ (KeyOfHeld m changes ∧ ∃ c ∈ lastChange? m changes, c.2 = .up)) := by
  refine ⟨chordName (Held.none.afterChanges changes) key, ?_, fun m => ?_⟩
  · rw [Held.press, isModifierKey_eq_false_iff.2 hkey]
    rfl
  · rw [infix_chordName_iff hkey, holds_afterChanges_iff]
    have hheld : (∃ c ∈ lastChange? m changes, c.2 ≠ .up) → KeyOfHeld m changes := by
      rintro ⟨_, hc, hup⟩
      exact keyOfHeld_of_lastChange? hc hup
    refine ⟨hheld, ?_⟩
    constructor
    · rintro hiff ⟨hany, c, hc, hup⟩
      obtain ⟨d, hd, hdown⟩ := hiff.2 hany
      obtain rfl := Option.mem_unique hc hd
      exact hdown hup
    · refine fun hnot => ⟨hheld, fun hany => ?_⟩
      obtain ⟨c, hc⟩ := Option.ne_none_iff_exists'.1 (lastChange?_ne_none hany)
      exact ⟨c, hc, fun hup => hnot ⟨hany, c, hc, hup⟩⟩

/-- So it is with the right key of a modifier that is held on while the left one comes and goes. -/
theorem press_names_held_rightctrl :
    ∃ changes : List (String × KeyState),
      changes = [("leftctrl", .down), ("rightctrl", .down), ("leftctrl", .up),
        ("rightctrl", .hold)] ∧
      (∀ m : Modifier, ¬ m.name.toList <:+: "a".toList) ∧
      ((Held.none.afterChanges changes).press "a" .down).1 = some "ctrl-a" ∧
      KeyOfHeld .ctrl changes ∧ ¬ ∃ c ∈ lastChange? .ctrl changes, c.2 = .up := by
  let changes : List (String × KeyState) :=
    [("leftctrl", .down), ("rightctrl", .down), ("leftctrl", .up), ("rightctrl", .hold)]
  have hkey : ∀ m : Modifier, ¬ m.name.toList <:+: "a".toList :=
    isModifierKey_eq_false_iff.1 (by decide +kernel)
  obtain ⟨chord, hchord, hnames⟩ := press_names_held_iff changes "a" .down hkey
  have hgives : ((Held.none.afterChanges changes).press "a" .down).1 = some "ctrl-a" := by
    decide +kernel
  obtain rfl : chord = "ctrl-a" := Option.some.inj (hchord.symm.trans hgives)
  have hnamed : Modifier.ctrl.name.toList <:+: "ctrl-a".toList := by decide +kernel
  have hheld := (hnames .ctrl).1 hnamed
  exact ⟨changes, rfl, hkey, hgives, hheld, fun hup =>
    (hnames .ctrl).2.1 ⟨fun _ => hheld, fun _ => hnamed⟩ ⟨hheld, hup⟩⟩

/-- With both keys of a modifier down and one of them released, the other one is held and the chord
does not name it. -/
theorem press_forgets_second_key :
    ∃ changes : List (String × KeyState),
      changes = [("leftctrl", .down), ("rightctrl", .down), ("leftctrl", .up)] ∧
      ((Held.none.afterChanges changes).press "a" .down).1 = some "a" ∧
      KeyHeld "rightctrl" changes ∧ KeyOfHeld .ctrl changes ∧
      ¬ Modifier.ctrl.name.toList <:+: "a".toList := by
  let changes : List (String × KeyState) :=
    [("leftctrl", .down), ("rightctrl", .down), ("leftctrl", .up)]
  have hright : KeyHeld "rightctrl" changes :=
    ⟨("rightctrl", .down), by decide +kernel, by decide⟩
  exact ⟨changes, rfl, by decide +kernel, hright, ⟨"rightctrl", by decide +kernel, hright⟩,
    by decide +kernel⟩


/-- What stands before the key in a chord: every held modifier, with a dash behind it. -/
def Held.front (h : Held) : List Char :=
  (Modifier.all.filter h.holds).flatMap fun m => m.name.toList ++ ['-']

theorem toList_dashed_concat (names : List String) (key : String) :
    (dashed (names ++ [key])).toList =
      (names.flatMap fun s => s.toList ++ ['-']) ++ key.toList := by
  induction names with
  | nil => rfl
  | cons s names ih =>
    obtain ⟨t, rest, hrest⟩ := List.exists_cons_of_ne_nil
      (List.append_ne_nil_of_right_ne_nil names (List.cons_ne_nil key []))
    rw [hrest] at ih
    simp [hrest, dashed, ih]

/-- A chord is what stands before the key, and the key. -/
theorem toList_chordName (h : Held) (key : String) :
    (chordName h key).toList = h.front ++ key.toList := by
  rw [chordName, toList_dashed_concat, Held.front, List.flatMap_map]

/-- With the same modifiers held, other keys have other chords. -/
theorem chordName_injective (h : Held) : Function.Injective (chordName h) := by
  intro k₁ k₂ heq
  have hlist : h.front ++ k₁.toList = h.front ++ k₂.toList := by
    rw [← toList_chordName, ← toList_chordName, heq]
  exact String.toList_inj.1 (List.append_cancel_left hlist)

/-- Keys that are no modifiers have a common chord only with the same modifiers held. -/
theorem held_eq_of_chordName_eq {h₁ h₂ : Held} {k₁ k₂ : String}
    (hk₁ : isModifierKey k₁ = false) (hk₂ : isModifierKey k₂ = false)
    (heq : chordName h₁ k₁ = chordName h₂ k₂) : h₁ = h₂ := by
  refine Held.ext_holds fun m => Bool.eq_iff_iff.2 ?_
  rw [← infix_chordName_iff (isModifierKey_eq_false_iff.1 hk₁),
    ← infix_chordName_iff (isModifierKey_eq_false_iff.1 hk₂), heq]

/-- Only keys that are no modifiers give chords. -/
theorem Held.press_eq_some_iff {h : Held} {key : String} {s : KeyState} {chord : String} :
    (h.press key s).1 = some chord ↔ isModifierKey key = false ∧ chord = chordName h key := by
  rw [Held.press]
  cases isModifierKey key with
  | true => simp
  | false => simp [eq_comm]

/-- Whatever modifiers are held and whatever states the keys come to, two keys that give the same
chord are the same key, and the same modifiers are held. -/
theorem press_unambiguous {h₁ h₂ : Held} {k₁ k₂ : String} {s₁ s₂ : KeyState} {chord : String}
    (hchord₁ : (h₁.press k₁ s₁).1 = some chord) (hchord₂ : (h₂.press k₂ s₂).1 = some chord) :
    k₁ = k₂ ∧ ∀ m, h₁.holds m = h₂.holds m := by
  obtain ⟨hk₁, rfl⟩ := Held.press_eq_some_iff.1 hchord₁
  obtain ⟨hk₂, heq⟩ := Held.press_eq_some_iff.1 hchord₂
  obtain rfl := held_eq_of_chordName_eq hk₁ hk₂ heq
  exact ⟨chordName_injective h₁ heq, fun _ => rfl⟩

/-- So it is with a key that is a dash itself, after different keys have been held and released. -/
theorem press_unambiguous_dash :
    ∃ changes₁ changes₂ : List (String × KeyState),
      changes₁ = [("leftalt", .down), ("leftctrl", .down), ("rightctrl", .up)] ∧
      changes₂ = [("rightalt", .hold), ("b", .down)] ∧
      ((Held.none.afterChanges changes₁).press "-" .down).1 = some "alt--" ∧
      ((Held.none.afterChanges changes₂).press "-" .up).1 = some "alt--" ∧
      ∀ m, (Held.none.afterChanges changes₁).holds m = (Held.none.afterChanges changes₂).holds m := by
  let changes₁ : List (String × KeyState) :=
    [("leftalt", .down), ("leftctrl", .down), ("rightctrl", .up)]
  let changes₂ : List (String × KeyState) := [("rightalt", .hold), ("b", .down)]
  have hchord₁ : ((Held.none.afterChanges changes₁).press "-" .down).1 = some "alt--" := by
    decide +kernel
  have hchord₂ : ((Held.none.afterChanges changes₂).press "-" .up).1 = some "alt--" := by
    decide +kernel
  exact ⟨changes₁, changes₂, rfl, rfl, hchord₁, hchord₂, (press_unambiguous hchord₁ hchord₂).2⟩

end ChordRules
