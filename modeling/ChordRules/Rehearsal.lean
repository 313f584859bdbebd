import ChordRules.Evaluation
import ChordRules.HostFunctions

/-! # Host functions with fixed answers

Rules can be rehearsed without devices: every function answers as it is told beforehand. The
state of the host is the number of calls that each function has had. -/
namespace ChordRules

/-- How a rehearsed function answers. -/
inductive Reaction where
  /-- The same value each time. -/
  | always (v : Value)
  /-- One of the arguments, or nothing if there are too few. -/
  | argument (i : Nat)
  /-- One value after the other, then nothing. -/
  | inTurn (vs : List Value)
  /-- How many arguments there are. -/
  | argumentCount
  /-- The first argument as a message, filled in with the others. -/
  | message

def Reaction.answer (calls : Nat) (vs : List Value) : Reaction → Value
  | always v => v
  | argument i => vs[i]?.getD .nothing
  | inTurn answers => answers[calls]?.getD .nothing
  | argumentCount => .number (Int64.ofNat vs.length)
  | message =>
    match vs with
    | [] => .nothing
    | format :: rest => .text (formatMessage format.render rest)

/-- How often each function has been called. -/
abbrev CallCounts := List (String × Nat)

def CallCounts.of (counts : CallCounts) (name : String) : Nat := (counts.lookup name).getD 0

def CallCounts.increment (counts : CallCounts) (name : String) : CallCounts :=
  (name, counts.of name + 1) :: counts.filter (·.1 != name)

/-- The function that reacts as told. -/
def Reaction.hosted (name : String) (r : Reaction) : HostFunction CallCounts :=
  fun vs counts => ⟨r.answer (counts.of name) vs, counts.increment name, []⟩

/-- Forgets how often a function was called. -/
def CallCounts.reset (counts : CallCounts) (name : String) : CallCounts :=
  counts.filter (·.1 != name)

end ChordRules
