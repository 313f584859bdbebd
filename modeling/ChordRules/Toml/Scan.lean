import ChordRules.Text.Cursor
import ChordRules.Toml.Fault

/-! # Scans of documents

A scan begins at a cursor and ends behind what it read, or has a fault. Another way to read on
is tried behind a fault that is not final, from where the first began. -/
namespace ChordRules.Toml

abbrev Scan := StateT Cursor (Except Fault)

namespace Scan

variable {α : Type}

/-- Fails where the cursor is. -/
def refuse : Scan α := do throw { place := (← get).position }

/-- Fails at the beginning of a part, for a cause. -/
def blame (start : Cursor) (cause : Cause) : Scan α :=
  throw { place := start.position, cause := some cause }

def onFault (f : Fault → Fault) (r : Scan α) : Scan α := fun k => (r k).mapError f

/-- Makes faults final. -/
def final (r : Scan α) : Scan α := r.onFault fun f => { f with final := true }

/-- Names what is read in faults, unless a smaller part has been named. -/
def called (c : Construct) (r : Scan α) : Scan α :=
  r.onFault fun f => { f with construct := f.construct.or (some c) }

/-- Adds to faults what could have stood here. -/
def expecting (what : List String) (r : Scan α) : Scan α :=
  r.onFault fun f => { f with expected := f.expected ++ what }

/-- Reads if that can be done. -/
def attempt (r : Scan α) : Scan (Option α) := fun k =>
  match r k with
  | .ok (a, k) => .ok (some a, k)
  | .error f => if f.final then .error f else .ok (none, k)

/-- Reads in one way or else in another. -/
def either (r s : Scan α) : Scan α := fun k =>
  match r k with
  | .ok x => .ok x
  | .error f => if f.final then .error f else s k

/-- The next character. -/
def next? : Scan (Option Char) := return (← get).rest.head?

/-- How many steps there can be from here on. -/
def fuel : Scan Nat := return (← get).rest.length + 1

def skip (count : Nat) : Scan Unit := modify (·.advance count)

def takeWhile (p : Char → Bool) : Scan (List Char) := do
  let cs := (← get).rest.takeWhile p
  skip cs.length
  return cs

/-- One character of a kind. -/
def one (p : Char → Bool) : Scan Char := do
  match ← next? with
  | some c => if p c then do skip 1; return c else refuse
  | none => refuse

def char (c : Char) : Scan Unit := do let _ ← one (· == c)

/-- The characters of a text. -/
def exactly (s : String) : Scan Unit := do
  if s.toList.isPrefixOf (← get).rest then skip s.length else refuse

/-- What is read, with its place. -/
def placed (r : Scan α) : Scan (α × Span) := do
  let start ← get
  let a ← r
  return (a, ⟨start.position, (← get).position⟩)

end Scan

open Scan

/-- Tab and every character but controls. -/
def isPlain (c : Char) : Bool := c == '\t' || (0x20 ≤ c.toNat && c.toNat != 0x7F)

def isSpace (c : Char) : Bool := c == ' ' || c == '\t'

def spaces : Scan Unit := do let _ ← takeWhile isSpace

/-- A line feed, alone or behind a carriage return. -/
def newline : Scan Unit := do
  match ← next? with
  | none => refuse
  | some '\n' => skip 1
  | some '\r' => do skip 1; char '\n'
  | some _ => do skip 1; refuse

def endOfText : Scan Unit := do
  if (← get).rest.isEmpty then return () else refuse

def comment : Scan Unit := do
  char '#'
  let _ ← takeWhile isPlain

def lineEnd : Scan Unit := either newline endOfText

/-- What may follow on the line of a value or a header. -/
def lineRest : Scan Unit :=
  expecting ["newline", "`#`"] do
    spaces
    let _ ← attempt comment
    lineEnd

/-- Blanks and ends of lines. -/
def blankLines : Nat → Scan Unit
  | 0 => return ()
  | n + 1 => do
    spaces
    match ← attempt newline with
    | some () => blankLines n
    | none => return ()

/-- Blanks, ends of lines and comments. -/
def gap : Nat → Scan Unit
  | 0 => return ()
  | n + 1 => do
    spaces
    match ← next? with
    | some '#' => do
      comment
      newline
      gap n
    | some '\n' | some '\r' => do
      newline
      gap n
    | _ => return ()

end ChordRules.Toml
