import ChordRules.Text.Cursor

/-! # Patterns as trees

A pattern is a regular expression. Its tree says what was written, with the place of each part;
what a part stands for can hang on flags that were set before it. -/
namespace ChordRules.Pattern

/-- What flags can change: whether case counts, where lines begin and end, what a dot stands for,
which repetitions are the greedy ones, and whether all of Unicode or ASCII is meant. -/
inductive Flag where
  | caseless | multiLine | dotAll | swapGreed | unicode | carriageReturns | verbose
  deriving DecidableEq, Repr

/-- Flags in the order in which they are turned on or off. -/
abbrev FlagChanges := List (Flag × Bool)

/-- A character, and whether it was written as a byte of two hexadecimal digits. -/
structure Literal where
  char : Char
  asByte : Bool
  span : Span
  deriving DecidableEq, Repr

inductive Shorthand where
  | digit | blank | word
  deriving DecidableEq, Repr

/-- Places between characters. -/
inductive Assertion where
  | lineStart | lineEnd | textStart | textEnd
  | boundary | noBoundary | wordStart | wordEnd | wordStartHalf | wordEndHalf
  deriving DecidableEq, Repr

/-- How a class of characters is described. -/
inductive ClassQuery where
  | named (name : String)
  | valued (property value : String)
  deriving DecidableEq, Repr

/-- What is written without parts of its own. -/
inductive Primitive where
  | literal (l : Literal)
  | dot (span : Span)
  | assertion (span : Span) (a : Assertion)
  | shorthand (span : Span) (negated : Bool) (s : Shorthand)
  | property (span : Span) (negated : Bool) (q : ClassQuery)
  deriving DecidableEq, Repr

def Primitive.span : Primitive → Span
  | literal l => l.span
  | dot span => span
  | assertion span _ => span
  | shorthand span _ _ => span
  | property span _ _ => span

/-- How two classes are made one. -/
inductive ClassOperator where
  | both | first | one
  deriving DecidableEq, Repr

/-- What stands between brackets. -/
inductive ClassTree where
  | nothing (span : Span)
  | literal (l : Literal)
  | range (span : Span) (low high : Literal)
  | ascii (span : Span) (negated : Bool) (name : String)
  | shorthand (span : Span) (negated : Bool) (s : Shorthand)
  | property (span : Span) (negated : Bool) (q : ClassQuery)
  | bracketed (span : Span) (negated : Bool) (inner : ClassTree)
  | union (span : Span) (items : List ClassTree)
  | combined (span : Span) (operator : ClassOperator) (left right : ClassTree)

def ClassTree.span : ClassTree → Span
  | nothing span => span
  | literal l => l.span
  | range span _ _ => span
  | ascii span _ _ => span
  | shorthand span _ _ => span
  | property span _ _ => span
  | bracketed span _ _ => span
  | union span _ => span
  | combined span _ _ _ => span

inductive GroupKind where
  | captured (index : Nat)
  | flagged (changes : FlagChanges)
  deriving DecidableEq, Repr

inductive Tree where
  | nothing (span : Span)
  | flags (span : Span) (changes : FlagChanges)
  | primitive (p : Primitive)
  | bracketed (span : Span) (negated : Bool) (inner : ClassTree)
  | repetition (span : Span) (least : Nat) (most : Option Nat) (greedy : Bool) (sub : Tree)
  | group (span : Span) (kind : GroupKind) (sub : Tree)
  | choice (span : Span) (branches : List Tree)
  | sequence (span : Span) (parts : List Tree)

def Tree.span : Tree → Span
  | nothing span => span
  | flags span _ => span
  | primitive p => p.span
  | bracketed span _ _ => span
  | repetition span _ _ _ _ => span
  | group span _ _ => span
  | choice span _ => span
  | sequence span _ => span

end ChordRules.Pattern
