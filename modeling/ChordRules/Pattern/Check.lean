import ChordRules.Pattern.Automaton
import ChordRules.Pattern.Fault
import ChordRules.Pattern.Meaning
import ChordRules.Pattern.Reading
import ChordRules.Pattern.Syntax

/-! # Which texts are patterns

A text is a pattern if it can be read, nests no deeper than allowed, has a meaning, and its automata
fit. These are looked at in this order, and the first that fails is why it is refused.

Classes in brackets, repetitions, groups, choices and sequences count one level each; inside a
class so do classes, unions and operators. Parts are looked at in the order in which they are
written, and the first that lies too deep is the fault. -/
namespace ChordRules.Pattern

/-- One level further down, for a part at a span. -/
def deeper (depth : Nat) (span : Span) : Except Fault Nat :=
  if nestingLimit ≤ depth then .error ⟨.tooDeep, span, none⟩ else .ok (depth + 1)

mutual

def ClassTree.checkDepth (depth : Nat) : ClassTree → Except Fault Unit
  | nothing _ => .ok ()
  | literal _ => .ok ()
  | range _ _ _ => .ok ()
  | ascii _ _ _ => .ok ()
  | shorthand _ _ _ => .ok ()
  | property _ _ _ => .ok ()
  | bracketed span _ inner => do checkDepth (← deeper depth span) inner
  | union span items => do checkDepths (← deeper depth span) items
  | combined span _ left right => do
    let depth ← deeper depth span
    checkDepth depth left
    checkDepth depth right

def ClassTree.checkDepths (depth : Nat) : List ClassTree → Except Fault Unit
  | [] => .ok ()
  | item :: rest =>
    match checkDepth depth item with
    | .ok () => checkDepths depth rest
    | .error f => .error f

end

mutual

def Tree.checkDepth (depth : Nat) : Tree → Except Fault Unit
  | nothing _ => .ok ()
  | flags _ _ => .ok ()
  | primitive _ => .ok ()
  | bracketed span _ inner => do inner.checkDepth (← deeper depth span)
  | repetition span _ _ _ sub => do checkDepth (← deeper depth span) sub
  | group span _ sub => do checkDepth (← deeper depth span) sub
  | choice span branches => do checkDepths (← deeper depth span) branches
  | sequence span parts => do checkDepths (← deeper depth span) parts

def Tree.checkDepths (depth : Nat) : List Tree → Except Fault Unit
  | [] => .ok ()
  | t :: rest =>
    match checkDepth depth t with
    | .ok () => checkDepths depth rest
    | .error f => .error f

end


/-- Why a text is refused as a pattern. -/
inductive Refusal where
  | malformed (fault : Fault)
  | tooLarge
  deriving DecidableEq, Repr

def Refusal.message (pattern : String) : Refusal → String
  | malformed fault => fault.message pattern
  | tooLarge => "Compiled regex exceeds size limit of " ++ showNat sizeLimit ++ " bytes."

/-- The plain form of a pattern. -/
def Form.ofText (pattern : String) : Except Fault Form := do
  let t ← Tree.ofText pattern
  t.checkDepth 0
  return (← t.form .start).1

/-- Whether a text is accepted as a pattern. -/
def check (pattern : String) : Except Refusal Unit :=
  match Form.ofText pattern with
  | .error fault => .error (.malformed fault)
  | .ok f => if f.fits then .ok () else .error .tooLarge

end ChordRules.Pattern
