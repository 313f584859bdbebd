import ChordRules.Character.Set
import ChordRules.Pattern.Form
import ChordRules.Text.Utf8
import Std.Data.HashMap

/-! # How large the automaton of a pattern is

The automaton that would look for a pattern in a text reads bytes. A form becomes a row of its
states, and there are two automata: one reads forward, the other back from where a match ends.
Nothing is read here, so that states are counted and not kept; either automaton may take up so many
bytes and no more.

The characters of a range, written in UTF-8, are the union of a few products of byte ranges: the
range is cut where the number of bytes changes, and then so that all bytes but the first that
varies take all the values they can. The products come in the order of their characters.

States of classes are shared where they do the same. They are found again through a table of few
slots, in which a new entry puts an old one out, so that the numbers of states matter and states
are counted in their order. -/
namespace ChordRules.Pattern

structure ByteRange where
  first : Nat
  last : Nat
  deriving DecidableEq, Repr

/-- Byte ranges of which one is taken after the other. -/
abbrev ByteSequence := List ByteRange

namespace ByteSequence

/-- A range without the code points that are no characters. -/
def characters (first last : Nat) : List (Nat × Nat) :=
  let below := (first, min last 0xD7FF)
  let above := (max first 0xE000, last)
  [below, above].filter fun r => r.1 ≤ r.2

/-- Cuts a range behind each of some code points. -/
def cut : List Nat → Nat → Nat → List (Nat × Nat)
  | [], first, last => [(first, last)]
  | n :: rest, first, last =>
    if first ≤ n ∧ n < last then (first, n) :: cut rest (n + 1) last else cut rest first last

/-- The greatest code points of one, two and three bytes. -/
def lengthEnds : List Nat := [0x7F, 0x7FF, 0xFFFF]

/-- Cuts a range into blocks: what lies in the first block of a size if it is not the whole of it,
whole blocks, and what lies in the last. The whole blocks are cut by the larger sizes. -/
def blocks : List Nat → Nat → Nat → List (Nat × Nat)
  | [], first, last => [(first, last)]
  | size :: sizes, first, last =>
    if first / size = last / size then [(first, last)]
    else
      let middle := (first + size - 1) / size * size
      let tail := (last + 1) / size * size
      (if first < middle then [(first, middle - 1)] else []) ++
        (if middle < tail then blocks sizes middle (tail - 1) else []) ++
        if tail ≤ last then [(tail, last)] else []

/-- How many characters there are below one, two and three bytes that are not the first. -/
def blockSizes : List Nat := [0x40, 0x1000, 0x40000]

/-- The product of byte ranges between two characters of a block. -/
def between (first last : Nat) : ByteSequence :=
  List.zipWith (fun a b => ⟨a.toNat, b.toNat⟩) (charBytes first) (charBytes last)

/-- The sequences of characters that have one number of bytes. -/
def ofEven (first last : Nat) : List ByteSequence :=
  if last < 0x80 then [[⟨first, last⟩]]
  else (blocks blockSizes first last).map fun r => between r.1 r.2

/-- The sequences of a range of characters. -/
def ofRange (first last : Nat) : List ByteSequence :=
  (characters first last).flatMap fun r => (cut lengthEnds r.1 r.2).flatMap fun r => ofEven r.1 r.2

/-- The sequences of a set of characters. -/
def ofSet (s : CharSet) : List ByteSequence := s.ranges.flatMap fun r => ofRange r.1 r.2

end ByteSequence

inductive Direction where
  | forward | back
  deriving DecidableEq, Repr

/-- The bytes that an automaton may take up, and those of a state, of a transition on a range of
bytes, and of a branch to another state. -/
def sizeLimit : Nat := 10485760
def stateSize : Nat := 32
def transitionSize : Nat := 8
def branchSize : Nat := 4

/-- An automaton that is being laid out: how many states there are, and how many bytes they hold
beside their own. -/
structure Draft where
  states : Nat
  held : Nat
  deriving DecidableEq, Repr

namespace Draft

def empty : Draft := ⟨0, 0⟩

def size (d : Draft) : Nat := d.states * stateSize + d.held

/-- Adds states and what they hold, as far as there is room. -/
def add (d : Draft) (states held : Nat) : Option Draft :=
  let next : Draft := ⟨d.states + states, d.held + held⟩
  if next.size ≤ sizeLimit then some next else none

/-- Adds the branches of states that are there. -/
def branch (d : Draft) (branches : Nat) : Option Draft := d.add 0 (branches * branchSize)

end Draft

/-- Does a thing so many times. -/
def times (step : Draft → Option Draft) : Nat → Draft → Option Draft
  | 0, d => some d
  | n + 1, d =>
    match step d with
    | some d => times step n d
    | none => none

/-- What states are there for, by the slots of keys. -/
structure StateTable where
  size : Nat
  slots : Std.HashMap Nat (List Nat × Nat)

namespace StateTable

def ofSize (size : Nat) : StateTable := ⟨size, ∅⟩

/-- Spreads a key over the slots of a table, number by number. -/
def slot (t : StateTable) (key : List Nat) : Nat :=
  let mix (h : UInt64) (n : Nat) : UInt64 := (h ^^^ n.toUInt64) * 1099511628211
  (key.foldl mix 14695981039346656037).toNat % t.size

/-- The state of a key, if it has not been put out. -/
def find? (t : StateTable) (key : List Nat) : Option Nat :=
  match t.slots[t.slot key]? with
  | some (k, state) => if k == key then some state else none
  | none => none

def insert (t : StateTable) (key : List Nat) (state : Nat) : StateTable :=
  { t with slots := t.slots.insert (t.slot key) (key, state) }

end StateTable

/-- A draft with the table of the class at hand. -/
structure Sharing where
  draft : Draft
  table : StateTable

/-- The state of a key; a new one holds so many bytes. -/
def Sharing.state (s : Sharing) (key : List Nat) (held : Nat) : Option (Nat × Sharing) :=
  match s.table.find? key with
  | some n => some (n, s)
  | none =>
    (s.draft.add 1 held).map fun d => (s.draft.states, ⟨d, s.table.insert key s.draft.states⟩)

/-- How many slots there are for the states of a class. -/
def forwardSlots : Nat := 10000
def backSlots : Nat := 1000

/-- The state that reads one of the sequences, up to a target. Sequences that begin alike stand
side by side; `depth` is how long they can be. -/
def sequencesState (target : Nat) : Nat → List ByteSequence → Sharing → Option (Nat × Sharing)
  | 0, _, s => some (target, s)
  | depth + 1, rows, s =>
    if rows.all List.isEmpty then some (target, s)
    else do
      let groups := rows.splitBy fun a b => a.head? == b.head?
      let (transitions, s) ← groups.foldlM (fun (done, s) group => do
        let (next, s) ← sequencesState target depth (group.map List.tail) s
        match group.head?.bind List.head? with
        | some r => return ([r.first, r.last, next] :: done, s)
        | none => return (done, s)) ([], s)
      s.state transitions.reverse.flatten (transitions.length * transitionSize)

/-- The states that read a sequence back, from the state behind its first byte to the one in front
of its last. -/
def chainState (s : Sharing) (target : Nat) : ByteSequence → Option (Nat × Sharing)
  | [] => some (target, s)
  | r :: rest => do
    let (n, s) ← s.state [target, r.first, r.last] 0
    chainState s n rest

/-- The states of a class: of ASCII alone one besides its end, read forward a tree of byte ranges,
and read back one chain for each sequence. -/
def layClass (direction : Direction) (set : CharSet) (d : Draft) : Option Draft :=
  if set.isAscii then d.add 2 (set.ranges.length * transitionSize)
  else
    let rows := ByteSequence.ofSet set
    match direction with
    | .forward => do
      let target := d.states
      let d ← d.add 1 0
      let (_, s) ← sequencesState target 4 rows ⟨d, .ofSize forwardSlots⟩
      return s.draft
    | .back => do
      let target := d.states + 1
      let d ← d.add 2 0
      let s ← rows.foldlM (fun (s : Sharing) row => do
        let (_, s) ← chainState s target row
        return { s with draft := ← s.draft.branch 1 }) ⟨d, .ofSize backSlots⟩
      return s.draft

/-- The rows between those that are empty. -/
def splitAtEmpty (rows : List (List UInt8)) : List (List (List UInt8)) :=
  rows.foldr (fun row parts =>
    match row, parts with
    | [], parts => [] :: parts
    | row, part :: parts => (row :: part) :: parts
    | row, [] => [[row]]) [[]]

/-- The rows that begin with each byte, without it. -/
def byFirst (rows : List (List UInt8)) : List (List (List UInt8)) :=
  (rows.filterMap List.head?).eraseDups.map fun b =>
    (rows.filter (·.head? == some b)).map List.tail

/-- The states that read one of some texts, an earlier one if there is a choice. Texts share the
states of what they begin with, unless another ends there that stands between them; `depth` is
how long they can be. -/
def layTexts : Nat → List (List UInt8) → Draft → Option Draft
  | 0, _, d => some d
  | depth + 1, rows, d =>
    if rows.all List.isEmpty then some d
    else do
      let parts := splitAtEmpty rows
      let d ← parts.foldlM (fun d part => do
        let groups := byFirst part
        let d ← groups.foldlM (fun d group => layTexts depth group d) d
        match groups with
        | [] => return d
        | [_] => d.add 1 0
        | _ => d.add 1 (groups.length * transitionSize)) d
      let full := (parts.filter (!·.isEmpty)).length
      d.add 1 ((full + parts.length - 1) * branchSize)

namespace Form

mutual

/-- Whether the last state of a form is one of branches, which takes one more branch to go on. -/
def endsBranching (direction : Direction) : Form → Bool
  | repetition least most _ sub =>
    match least, most with
    | 0, none => sub.minLength.any (0 < ·)
    | _, none => true
    | 0, some _ => false
    | least, some most => least == most && endsBranching direction sub
  | capture _ sub => direction == .back && endsBranching direction sub
  | sequence parts =>
    match direction with
    | .forward => lastEndsBranching direction parts
    | .back => firstEndsBranching direction parts
  | _ => false

def firstEndsBranching (direction : Direction) : List Form → Bool
  | [] => false
  | f :: _ => endsBranching direction f

def lastEndsBranching (direction : Direction) : List Form → Bool
  | [] => false
  | [f] => endsBranching direction f
  | _ :: rest => lastEndsBranching direction rest

end

/-- The bytes that it takes to go on behind a form. -/
def linkSize (direction : Direction) (f : Form) : Nat :=
  if f.endsBranching direction then branchSize else 0

/-- The bytes that it takes to go on between the parts of a sequence. -/
def linkSizes (direction : Direction) (parts : List Form) : Nat :=
  let linked := match direction with
    | .forward => parts.dropLast
    | .back => parts.tail
  linked.foldl (fun n f => n + f.linkSize direction) 0

def textBytes? : Form → Option (List UInt8)
  | text bytes => some bytes
  | _ => none

/-- Lays out a repetition of what `step` lays out, which takes so many bytes to go on behind. -/
def layRepetition (step : Draft → Option Draft) (link : Nat) (canBeEmpty : Bool) :
    Nat → Option Nat → Draft → Option Draft
  | 0, some 1, d => do
    let d ← step (← d.add 1 (2 * branchSize))
    d.add 1 link
  | 0, none, d =>
    if canBeEmpty then do
      let d ← step d
      d.add 3 (4 * branchSize + link)
    else do
      let d ← step (← d.add 1 branchSize)
      d.add 0 link
  | least, none, d => do
    let d ← times step least d
    d.add 1 (branchSize + least * link)
  | least, some most, d => do
    let d ← if least = 0 then d.add 1 0 else times step least d
    if most ≤ least then d.add 0 ((least - 1) * link)
    else
      let d ← d.add 1 (least * link)
      times (fun d => do step (← d.add 1 (2 * branchSize + link))) (most - least) d

mutual

/-- Lays out the states of a form behind those that are there. -/
def lay (direction : Direction) : Form → Draft → Option Draft
  | empty, d => d.add 1 0
  | text bytes, d => d.add bytes.length 0
  | oneOf s, d => layClass direction s d
  | byteOf s, d => d.add 2 (s.ranges.length * transitionSize)
  | look _, d => d.add 1 0
  | repetition least most _ sub, d =>
    layRepetition (lay direction sub) (sub.linkSize direction) (!sub.minLength.any (0 < ·))
      least most d
  | capture _ sub, d =>
    match direction with
    | .forward => do
      let d ← lay .forward sub (← d.add 1 0)
      d.add 1 (sub.linkSize .forward)
    | .back => lay .back sub d
  | sequence parts, d => do
    let d ← match direction with
      | .forward => layRow parts d
      | .back => layBack parts d
    d.add 0 (linkSizes direction parts)
  | choice branches, d =>
    match branches.mapM textBytes? with
    | some texts => do
      let rows := match direction with
        | .forward => texts
        | .back => texts.map List.reverse
      let longest := (texts.map List.length).foldl max 0
      layTexts (longest + 1) rows (← d.add 1 0)
    | none => layBranches direction 0 branches d

/-- Lays out parts one after the other. -/
def layRow : List Form → Draft → Option Draft
  | [], d => some d
  | f :: rest, d =>
    match lay .forward f d with
    | some d => layRow rest d
    | none => none

/-- Lays out parts from the last to the first. -/
def layBack : List Form → Draft → Option Draft
  | [], d => some d
  | f :: rest, d =>
    match layBack rest d with
    | some d => lay .back f d
    | none => none

/-- Lays out branches, the first two before the states where they part and meet. -/
def layBranches (direction : Direction) : Nat → List Form → Draft → Option Draft
  | _, [], d => some d
  | n, f :: rest, d => do
    let d ← lay direction f d
    let d ← d.add (if n = 1 then 2 else 0) (branchSize + f.linkSize direction)
    layBranches direction (n + 1) rest d

end

/-- Lays out what comes before a form: it is looked for behind any bytes, unless it can be found
in one place only. -/
def layLead (fixed : Bool) : Option Draft :=
  if fixed then Draft.empty.add 1 0
  else Draft.empty.add 3 (transitionSize + 2 * branchSize)

/-- The automaton of a form. The one that reads forward notes where a match begins and ends. -/
def draft? (f : Form) : Direction → Option Draft
  | .forward => do
    let d ← layLead f.startsAtStart
    let d ← f.lay .forward (← d.add 1 0)
    d.add 2 (f.linkSize .forward)
  | .back => do
    let d ← f.lay .back (← layLead f.endsAtStop)
    d.add 1 (f.linkSize .back)

/-- Whether there is room for both automata of a form. -/
def fits (f : Form) : Bool := (f.draft? .forward).isSome && (f.draft? .back).isSome

end Form
end ChordRules.Pattern
