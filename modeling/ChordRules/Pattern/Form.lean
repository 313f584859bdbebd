import ChordRules.Character.Set
import ChordRules.Text.Utf8

/-! # Patterns in their plain form

The plain form of a pattern has no flags: what they change is written out. Forms are simplified
as they are built, so that equal texts in a row are one text and a choice among single characters
is a class; how large the automaton of a pattern is hangs on that. -/
namespace ChordRules.Pattern

/-- Places that a pattern can look for. -/
inductive Look where
  | start | stop
  | lineStart (carriageReturns : Bool)
  | lineStop (carriageReturns : Bool)
  | boundary (unicode : Bool)
  | noBoundary (unicode : Bool)
  | wordStart (unicode : Bool)
  | wordStop (unicode : Bool)
  | wordStartHalf (unicode : Bool)
  | wordStopHalf (unicode : Bool)
  deriving DecidableEq, Repr

inductive Form where
  | empty
  | text (bytes : List UInt8)
  | oneOf (s : CharSet)
  /-- A byte of a set; an empty set matches nothing. -/
  | byteOf (s : CharSet)
  | look (l : Look)
  | repetition (least : Nat) (most : Option Nat) (greedy : Bool) (sub : Form)
  | capture (index : Nat) (sub : Form)
  | sequence (parts : List Form)
  | choice (branches : List Form)

namespace Form

/-- How many bytes the character of a code point has. -/
def encodedLength (n : Nat) : Nat :=
  if n < 0x80 then 1 else if n < 0x800 then 2 else if n < 0x10000 then 3 else 4

mutual

/-- The fewest bytes a match can have, if there can be a match. -/
def minLength : Form → Option Nat
  | empty => some 0
  | text bytes => some bytes.length
  | oneOf s => s.ranges.head?.map fun r => encodedLength r.1
  | byteOf s => if s.isEmpty then none else some 1
  | look _ => some 0
  | repetition least _ _ sub => (minLength sub).map (· * least)
  | capture _ sub => minLength sub
  | sequence parts => minLengthAll parts
  | choice branches => minLengthAny branches

def minLengthAll : List Form → Option Nat
  | [] => some 0
  | f :: rest =>
    match minLength f, minLengthAll rest with
    | some m, some n => some (m + n)
    | _, _ => none

/-- The least of the lengths, if all branches have one. -/
def minLengthAny : List Form → Option Nat
  | [] => none
  | [f] => minLength f
  | f :: rest =>
    match minLength f, minLengthAny rest with
    | some m, some n => some (min m n)
    | _, _ => none

end

mutual

/-- The most bytes a match can have, if there is a bound. -/
def maxLength : Form → Option Nat
  | empty => some 0
  | text bytes => some bytes.length
  | oneOf s => s.ranges.getLast?.map fun r => encodedLength r.2
  | byteOf s => if s.isEmpty then none else some 1
  | look _ => some 0
  | repetition _ most _ sub =>
    match most, maxLength sub with
    | some n, some m => some (m * n)
    | _, _ => none
  | capture _ sub => maxLength sub
  | sequence parts => maxLengthAll parts
  | choice branches => maxLengthAny branches

def maxLengthAll : List Form → Option Nat
  | [] => some 0
  | f :: rest =>
    match maxLength f, maxLengthAll rest with
    | some m, some n => some (m + n)
    | _, _ => none

def maxLengthAny : List Form → Option Nat
  | [] => none
  | [f] => maxLength f
  | f :: rest =>
    match maxLength f, maxLengthAny rest with
    | some m, some n => some (max m n)
    | _, _ => none

end

mutual

def same : Form → Form → Bool
  | empty, empty => true
  | text a, text b => a == b
  | oneOf s, oneOf t => s == t
  | byteOf s, byteOf t => s == t
  | look a, look b => a == b
  | repetition l m g f, repetition l' m' g' f' => l == l' && m == m' && g == g' && same f f'
  | capture i f, capture j f' => i == j && same f f'
  | sequence fs, sequence gs => sameAll fs gs
  | choice fs, choice gs => sameAll fs gs
  | _, _ => false

def sameAll : List Form → List Form → Bool
  | [], [] => true
  | f :: fs, g :: gs => same f g && sameAll fs gs
  | _, _ => false

end

/-- One character of a set. -/
def ofSet (s : CharSet) : Form :=
  match s.ranges with
  | [] => byteOf .empty
  | [(a, b)] => if a = b then text (charBytes a) else oneOf s
  | _ => oneOf s

/-- One byte of a set. -/
def ofBytes (s : CharSet) : Form :=
  match s.ranges with
  | [(a, b)] => if a = b then text [a.toUInt8] else byteOf s
  | _ => byteOf s

/-- A repetition. What can match the empty text only needs no second try, and a repetition of
exactly one is none. -/
def repeated (least : Nat) (most : Option Nat) (greedy : Bool) (sub : Form) : Form :=
  let void : Bool := sub.maxLength == some 0
  let least := if void then min least 1 else least
  let most := if void then some (most.elim 1 (min · 1)) else most
  if least = 0 ∧ most = some 0 then empty
  else if least = 1 ∧ most = some 1 then sub
  else repetition least most greedy sub

/-- Adds a text, given by its bytes from the last to the first, to parts that come last first. -/
def addText (done : List Form) (reversed : List UInt8) : List Form :=
  if reversed.isEmpty then done else text reversed.reverse :: done

/-- Puts texts in a row together. The parts done come last first, and so do the bytes pending. -/
def joinTexts (done : List Form) (pending : List UInt8) : List Form → List Form
  | [] => (addText done pending).reverse
  | text bytes :: rest => joinTexts done (bytes.reverse ++ pending) rest
  | empty :: rest => joinTexts done pending rest
  | f :: rest => joinTexts (f :: addText done pending) [] rest

/-- Parts in a row, without sequences among them. -/
def flatten (parts : List Form) : List Form :=
  parts.flatMap fun
    | sequence fs => fs
    | f => [f]

def ofParts (parts : List Form) : Form :=
  match joinTexts [] [] (flatten parts) with
  | [] => empty
  | [f] => f
  | fs => sequence fs

/-- The code point that a text consists of, if it is a single one. -/
def singleCharacter? : Form → Option Nat
  | text bytes =>
    match decodeUtf8? bytes with
    | some s => match s.toList with
      | [c] => some c.toNat
      | _ => none
    | none => none
  | _ => none

/-- The characters that a class consists of; bytes count if they are ASCII. -/
def classCharacters? : Form → Option CharSet
  | oneOf s => some s
  | byteOf s => if s.isAscii then some s else none
  | _ => none

/-- One class for several branches that are single characters, or all classes. -/
def asClass? (branches : List Form) : Option Form :=
  match branches.mapM singleCharacter? with
  | some ns => some (ofSet (.ofRanges (ns.map fun n => (n, n))))
  | none => (branches.mapM classCharacters?).map fun sets => ofSet (.unions sets)

/-- How many parts two sequences begin with alike. -/
def commonLength : List Form → List Form → Nat
  | f :: fs, g :: gs => if same f g then commonLength fs gs + 1 else 0
  | _, _ => 0

def parts? : Form → Option (List Form)
  | sequence fs => some fs
  | _ => none

/-- How many parts all sequences begin with alike. -/
def commonPrefix : List (List Form) → Nat
  | [] => 0
  | fs :: rest => rest.foldl (fun n gs => min n (commonLength fs gs)) fs.length

/-- Branches without choices among them. -/
def flattenChoices (branches : List Form) : List Form :=
  branches.flatMap fun
    | choice fs => fs
    | f => [f]

/-- A choice. What all branches begin with stands before it; `fuel` bounds how often that is
taken out. -/
def ofBranchesBounded : Nat → List Form → Form
  | 0, branches => choice branches
  | fuel + 1, branches =>
    match flattenChoices branches with
    | [] => byteOf .empty
    | [f] => f
    | fs =>
      match asClass? fs with
      | some f => f
      | none =>
        match fs.mapM parts? with
        | none => choice fs
        | some rows =>
          let n := commonPrefix rows
          if n = 0 then choice fs
          else
            let rest := ofBranchesBounded fuel (rows.map fun row => ofParts (row.drop n))
            ofParts ((rows.headD []).take n ++ [rest])

/-- A choice. After one prefix is taken out, no other can be left. -/
def ofBranches (branches : List Form) : Form := ofBranchesBounded 3 branches

mutual

/-- Whether a match can begin at the start of the text only. -/
def startsAtStart : Form → Bool
  | look l => l == .start
  | repetition least _ _ sub => 0 < least && startsAtStart sub
  | capture _ sub => startsAtStart sub
  | sequence parts => someStartsAtStart parts
  | choice branches => allStartAtStart branches
  | _ => false

/-- Whether one of the parts that no byte comes before does. -/
def someStartsAtStart : List Form → Bool
  | [] => false
  | f :: rest => startsAtStart f || (maxLength f == some 0 && someStartsAtStart rest)

def allStartAtStart : List Form → Bool
  | [] => true
  | f :: rest => startsAtStart f && allStartAtStart rest

end

/-- Whether no form of a list matches a byte. -/
def allVoid : List Form → Bool
  | [] => true
  | f :: rest => maxLength f == some 0 && allVoid rest

mutual

/-- Whether a match can end at the end of the text only. -/
def endsAtStop : Form → Bool
  | look l => l == .stop
  | repetition least _ _ sub => 0 < least && endsAtStop sub
  | capture _ sub => endsAtStop sub
  | sequence parts => someEndsAtStop parts
  | choice branches => allEndAtStop branches
  | _ => false

/-- Whether one of the parts that no byte comes behind does. -/
def someEndsAtStop : List Form → Bool
  | [] => false
  | f :: rest => (allVoid rest && endsAtStop f) || someEndsAtStop rest

def allEndAtStop : List Form → Bool
  | [] => true
  | f :: rest => endsAtStop f && allEndAtStop rest

end

end Form
end ChordRules.Pattern
