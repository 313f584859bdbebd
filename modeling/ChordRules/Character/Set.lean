import ChordRules.Text.Word

/-! # Sets of characters

A set of characters is kept as ranges of code points in ascending order, none of which touches
the next. Sets are read from tables whose runs stand in hexadecimal with blanks between them. -/
namespace ChordRules

structure CharSet where
  ranges : List (Nat × Nat)
  deriving DecidableEq, Repr

namespace CharSet

/-- The greatest code point of a character, and the greatest of a single byte. -/
def lastCharacter : Nat := 0x10FFFF
def lastByte : Nat := 0xFF

def empty : CharSet := ⟨[]⟩

def range (first last : Nat) : CharSet := ⟨[(first, last)]⟩

/-- All characters. -/
def all : CharSet := range 0 lastCharacter

def contains (s : CharSet) (n : Nat) : Bool := inRanges s.ranges n

def isEmpty (s : CharSet) : Bool := s.ranges.isEmpty

/-- Whether no character lies behind ASCII. -/
def isAscii (s : CharSet) : Bool := s.ranges.all (·.2 < 0x80)

/-- Joins a range with those behind it that it touches. -/
def joinFrom (first last : Nat) : List (Nat × Nat) → List (Nat × Nat)
  | [] => [(first, last)]
  | r :: rest =>
    if r.1 ≤ last + 1 then joinFrom first (max last r.2) rest
    else (first, last) :: joinFrom r.1 r.2 rest

def ofRanges (rs : List (Nat × Nat)) : CharSet :=
  match rs.mergeSort (fun r s => r.1 ≤ s.1) with
  | [] => empty
  | r :: rest => ⟨joinFrom r.1 r.2 rest⟩

def union (s t : CharSet) : CharSet := ofRanges (s.ranges ++ t.ranges)

def unions (sets : List CharSet) : CharSet := ofRanges (sets.flatMap (·.ranges))

/-- What lies between ranges, from some code point to the last. -/
def gaps (last next : Nat) : List (Nat × Nat) → List (Nat × Nat)
  | [] => if next ≤ last then [(next, last)] else []
  | r :: rest =>
    if next < r.1 then (next, r.1 - 1) :: gaps last (r.2 + 1) rest else gaps last (r.2 + 1) rest

/-- All that a set lacks, up to some code point. -/
def complement (last : Nat) (s : CharSet) : CharSet := ⟨gaps last 0 s.ranges⟩

/-- The characters of one set that are not in another. -/
def minus (s t : CharSet) : CharSet :=
  complement lastCharacter ((complement lastCharacter s).union t)

def inter (s t : CharSet) : CharSet := s.minus (complement lastCharacter t)

/-- The characters that are in one of two sets only. -/
def symmetricDifference (s t : CharSet) : CharSet := (s.union t).minus (s.inter t)

/-- Every second code point of a range. -/
def everySecond (first last : Nat) : List (Nat × Nat) :=
  (List.range ((last - first) / 2 + 1)).map fun i => (first + 2 * i, first + 2 * i)

/-- Reads one run of a table: a code point as `AA`, a range as `41-5A`, or every second code
point of a range as `100-12E/2`. -/
def readRun (run : String) : List (Nat × Nat) :=
  let number (s : String) : Nat := (readHex? s.toList).getD 0
  match run.splitOn "-" with
  | [first, last] =>
    match last.splitOn "/" with
    | [last, _] => everySecond (number first) (number last)
    | _ => [(number first, number last)]
  | _ => [(number run, number run)]

/-- Reads a table, given in lines. -/
def ofTable (lines : List String) : CharSet :=
  ofRanges (lines.flatMap fun line => (line.splitOn " ").flatMap readRun)

end CharSet
end ChordRules
