import ChordRules.Report
import ChordRules.Text.Lowercase
import ChordRules.Text.Word
import ChordRules.Text.Utf8

/-! # Key events

A raw event has a key code and a value: 0 for a key released, 1 for pressed, 2 for held down. A
line spells it as the code, blanks, and a signed decimal of 32 bits. A key is a modifier if its
name holds `alt`, `ctrl` or `shift`. Modifiers only change which modifiers are held; any other key
gives the chord of the held modifiers and its own name.

The bytes of a text are read line by line. Every line gives at most one item: a chord, a warning
about a malformed line, or a failure for a line that is not UTF-8. Reading goes on after each. -/
namespace ChordRules

inductive KeyState where
  | up | down | hold
  deriving DecidableEq, Repr

namespace KeyState

def name : KeyState → String
  | up => "up"
  | down => "down"
  | hold => "hold"

def ofValue? (value : Int) : Option KeyState :=
  if value = 0 then some up else if value = 1 then some down
  else if value = 2 then some hold else none

theorem ofValue?_eq_some_iff {value : Int} {s : KeyState} :
    ofValue? value = some s ↔ value = match s with | up => 0 | down => 1 | hold => 2 := by
  cases s <;> simp only [ofValue?] <;> repeat' split
  all_goals simp_all

theorem ofValue?_eq_none_iff {value : Int} :
    ofValue? value = none ↔ value ≠ 0 ∧ value ≠ 1 ∧ value ≠ 2 := by
  simp only [ofValue?]
  repeat' split
  all_goals simp_all

end KeyState

structure RawEvent where
  code : String
  value : Int
  deriving DecidableEq, Repr

/-- The name of the key: the code behind its first underscore, if it has one, in lower case. -/
def RawEvent.keyName (e : RawEvent) : String :=
  match e.code.toList.dropWhile (· != '_') with
  | _ :: name => lowerText (String.ofList name)
  | [] => lowerText e.code

/-- Why a line spells no event. -/
inductive EventFault where
  | badValue (field : String)
  | badShape (line : String)
  deriving DecidableEq, Repr

def EventFault.message : EventFault → String
  | badValue field => "invalid key value `" ++ field ++ "`"
  | badShape line => "expected `<CODE> <VALUE>`, got `" ++ line ++ "`"

def inWord32 (i : Int) : Bool := -0x80000000 ≤ i && i < 0x80000000

/-- The event a line spells. Blank lines and comments spell none. -/
def RawEvent.ofLine (line : String) : Except EventFault (Option RawEvent) :=
  let cs := trimBlank line.toList
  if cs.isEmpty || cs.head? == some '#' then .ok none
  else match fields cs with
    | [code, value] =>
      match (readSigned? value).filter inWord32 with
      | some v => .ok (some ⟨String.ofList code, v⟩)
      | none => .error (.badValue (String.ofList value))
    | _ => .error (.badShape (String.ofList cs))


inductive Modifier where
  | alt | ctrl | shift
  deriving DecidableEq, Repr

namespace Modifier

def name : Modifier → String
  | alt => "alt"
  | ctrl => "ctrl"
  | shift => "shift"

/-- All modifiers in the order in which chords name them. -/
def all : List Modifier := [alt, ctrl, shift]

theorem mem_all (m : Modifier) : m ∈ all := by cases m <;> decide

end Modifier

/-- Whether a text holds another one. -/
def holdsText (part : List Char) : List Char → Bool
  | [] => part.isEmpty
  | c :: cs => part.isPrefixOf (c :: cs) || holdsText part cs

def Modifier.isIn (m : Modifier) (key : String) : Bool := holdsText m.name.toList key.toList

/-- Which modifiers are held. -/
structure Held where
  alt : Bool
  ctrl : Bool
  shift : Bool
  deriving DecidableEq, Repr

namespace Held

def none : Held := ⟨false, false, false⟩

def holds (h : Held) : Modifier → Bool
  | .alt => h.alt
  | .ctrl => h.ctrl
  | .shift => h.shift

/-- Changes every modifier in a way of its own. -/
def update (h : Held) (f : Modifier → Bool → Bool) : Held :=
  ⟨f .alt h.alt, f .ctrl h.ctrl, f .shift h.shift⟩

@[simp] theorem holds_none (m : Modifier) : none.holds m = false := by cases m <;> rfl

@[simp] theorem holds_update (h : Held) (f : Modifier → Bool → Bool) (m : Modifier) :
    (h.update f).holds m = f m (h.holds m) := by cases m <;> rfl

theorem ext_holds {h k : Held} (heq : ∀ m, h.holds m = k.holds m) : h = k := by
  cases h; cases k
  have h₁ := heq .alt
  have h₂ := heq .ctrl
  have h₃ := heq .shift
  simp_all [holds]

end Held

/-- Names joined by dashes. -/
def dashed : List String → String
  | [] => ""
  | [s] => s
  | s :: t :: rest => s ++ "-" ++ dashed (t :: rest)

/-- The chord of a key with the given modifiers held. -/
def chordName (h : Held) (key : String) : String :=
  dashed ((Modifier.all.filter h.holds).map (·.name) ++ [key])

def isModifierKey (key : String) : Bool := Modifier.all.any (·.isIn key)

namespace Held

/-- One change of a key: the chord it gives, if any, and the modifiers held from then on. -/
def press (h : Held) (key : String) (s : KeyState) : Option String × Held :=
  if isModifierKey key then
    (Option.none, h.update fun m now => if m.isIn key then s != .up else now)
  else (some (chordName h key), h)

/-- One raw event. Values that are no key state are ignored. -/
def process (h : Held) (e : RawEvent) : Option (String × KeyState) × Held :=
  match KeyState.ofValue? e.value with
  | Option.none => (Option.none, h)
  | some s =>
    let r := h.press e.keyName s
    (r.1.map (·, s), r.2)

end Held

inductive FeedItem where
  | chord (key : String) (state : KeyState)
  | failure (fault : IoFault)
  | warning (line : LogLine)
  deriving DecidableEq, Repr

def skippedWarning (e : EventFault) : LogLine :=
  ⟨.warn, .events, "skipping event: " ++ e.message⟩

/-- The item of one line, and the modifiers held after it. -/
def feedLine (h : Held) (line : List UInt8) : Option FeedItem × Held :=
  match decodeUtf8? line with
  | none => (some (.failure .notUtf8), h)
  | some s =>
    match RawEvent.ofLine s with
    | .error e => (some (.warning (skippedWarning e)), h)
    | .ok none => (none, h)
    | .ok (some e) =>
      let r := h.process e
      (r.1.map fun c => .chord c.1 c.2, r.2)

def feedLines (h : Held) : List (List UInt8) → List FeedItem
  | [] => []
  | line :: rest =>
    let r := feedLine h line
    r.1.toList ++ feedLines r.2 rest

/-- All items of a text, no modifier being held at first. -/
def feedOfBytes (bytes : List UInt8) : List FeedItem := feedLines .none (byteLines bytes)

end ChordRules
