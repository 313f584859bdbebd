import ChordRules.Character.CaseFolding
import ChordRules.Character.Class
import ChordRules.Pattern.Fault
import ChordRules.Pattern.Form
import ChordRules.Pattern.Syntax

/-! # What patterns mean

A tree is brought into its plain form under the flags that hold at each of its parts. Flags hold
from where they are set to the end of the group around them. A pattern is matched against text, so
that without Unicode only what stays within ASCII has a meaning. -/
namespace ChordRules.Pattern

/-- The flags that are on. -/
structure Flags where
  on : List Flag

namespace Flags

def start : Flags := ⟨[.unicode]⟩

def has (fs : Flags) (f : Flag) : Bool := fs.on.contains f

/-- Turns one flag on or off. -/
def put (fs : Flags) (change : Flag × Bool) : Flags :=
  let others := fs.on.filter (· != change.1)
  ⟨if change.2 then change.1 :: others else others⟩

def change (fs : Flags) (changes : FlagChanges) : Flags := changes.foldl put fs

/-- A set with the other cases of its characters, if case does not count. -/
def fold (fs : Flags) (s : CharSet) : CharSet :=
  if !fs.has .caseless then s
  else if fs.has .unicode then CaseFolding.close s
  else CaseFolding.closeAscii s

def negate (fs : Flags) (negated : Bool) (s : CharSet) : CharSet :=
  if negated then
    s.complement (if fs.has .unicode then CharSet.lastCharacter else CharSet.lastByte)
  else s

/-- A set that lies at a span, if it may be matched against text. -/
def confine (fs : Flags) (span : Span) (s : CharSet) : Except Fault CharSet :=
  if fs.has .unicode || s.isAscii then .ok s else .error ⟨.notUtf8, span, none⟩

/-- A set as it is written: cases are added before it is negated. -/
def written (fs : Flags) (span : Span) (negated : Bool) (s : CharSet) : Except Fault CharSet :=
  fs.confine span (fs.negate negated (fs.fold s))

/-- One character of a set. -/
def formOf (fs : Flags) (s : CharSet) : Form :=
  if fs.has .unicode then .ofSet s else .ofBytes s

end Flags

/-- The class of ASCII characters of a name. -/
def asciiRanges (name : String) : List (Nat × Nat) :=
  match name with
  | "alnum" => [(0x30, 0x39), (0x41, 0x5A), (0x61, 0x7A)]
  | "alpha" => [(0x41, 0x5A), (0x61, 0x7A)]
  | "ascii" => [(0, 0x7F)]
  | "blank" => [(0x09, 0x09), (0x20, 0x20)]
  | "cntrl" => [(0, 0x1F), (0x7F, 0x7F)]
  | "digit" => [(0x30, 0x39)]
  | "graph" => [(0x21, 0x7E)]
  | "lower" => [(0x61, 0x7A)]
  | "print" => [(0x20, 0x7E)]
  | "punct" => [(0x21, 0x2F), (0x3A, 0x40), (0x5B, 0x60), (0x7B, 0x7E)]
  | "space" => [(0x09, 0x0D), (0x20, 0x20)]
  | "upper" => [(0x41, 0x5A)]
  | "word" => [(0x30, 0x39), (0x41, 0x5A), (0x5F, 0x5F), (0x61, 0x7A)]
  | "xdigit" => [(0x30, 0x39), (0x41, 0x46), (0x61, 0x66)]
  | _ => []

def Shorthand.set (unicode : Bool) : Shorthand → CharSet
  | digit => if unicode then Property.digits else ⟨asciiRanges "digit"⟩
  | blank => if unicode then Property.blanks else ⟨asciiRanges "space"⟩
  | word => if unicode then Property.wordCharacters else ⟨asciiRanges "word"⟩

/-- The class that a query describes. -/
def ClassQuery.set : ClassQuery → Except ClassNameFault CharSet
  | named name => CharacterClass.named name
  | valued property value => CharacterClass.valued property value

def ClassOperator.apply : ClassOperator → CharSet → CharSet → CharSet
  | both => CharSet.inter
  | first => CharSet.minus
  | one => CharSet.symmetricDifference

/-- A shorthand has all cases of its characters. -/
def shorthandSet (fs : Flags) (span : Span) (negated : Bool) (s : Shorthand) :
    Except Fault CharSet :=
  fs.confine span (fs.negate negated (s.set (fs.has .unicode)))

def propertySet (fs : Flags) (span : Span) (negated : Bool) (q : ClassQuery) :
    Except Fault CharSet :=
  if !fs.has .unicode then .error ⟨.outsideUnicode, span, none⟩
  else
    match q.set with
    | .ok s => fs.written span negated s
    | .error .unknownProperty => .error ⟨.propertyUnknown, span, none⟩
    | .error .unknownValue => .error ⟨.propertyValueUnknown, span, none⟩

/-- The code point of a literal. Without Unicode a byte outside ASCII is no text. -/
def literalCode (fs : Flags) (l : Literal) : Except Fault Nat :=
  if !fs.has .unicode && l.asByte && 0x7F < l.char.toNat then .error ⟨.notUtf8, l.span, none⟩
  else .ok l.char.toNat

/-- The code point of a literal in a class, which has to be a single byte without Unicode. -/
def classCode (fs : Flags) (l : Literal) : Except Fault Nat := do
  let n ← literalCode fs l
  if !fs.has .unicode && 0x7F < n then .error ⟨.outsideUnicode, l.span, none⟩ else return n

mutual

/-- The characters of a class, cases added where it is negated or part of an operator. -/
def ClassTree.set (fs : Flags) : ClassTree → Except Fault CharSet
  | nothing _ => .ok .empty
  | literal l => do
    let n ← classCode fs l
    return .range n n
  | range _ low high => do
    let first ← classCode fs low
    let last ← classCode fs high
    return .range first last
  | ascii span negated name => fs.written span negated ⟨asciiRanges name⟩
  | shorthand span negated s => shorthandSet fs span negated s
  | property span negated q => propertySet fs span negated q
  | bracketed span negated inner => do fs.written span negated (← set fs inner)
  | union _ items => do return .unions (← sets fs items)
  | combined _ operator left right => do
    let s ← set fs left
    let t ← set fs right
    return operator.apply (fs.fold s) (fs.fold t)

def ClassTree.sets (fs : Flags) : List ClassTree → Except Fault (List CharSet)
  | [] => .ok []
  | item :: rest => do
    let s ← set fs item
    let more ← sets fs rest
    return s :: more

end

/-- The characters that a dot stands for. -/
def dotSet (fs : Flags) : CharSet :=
  if fs.has .dotAll then .all
  else
    let ends := if fs.has .carriageReturns then [(0x0A, 0x0A), (0x0D, 0x0D)] else [(0x0A, 0x0A)]
    CharSet.complement CharSet.lastCharacter ⟨ends⟩

def Assertion.look (fs : Flags) : Assertion → Look
  | lineStart => if fs.has .multiLine then .lineStart (fs.has .carriageReturns) else .start
  | lineEnd => if fs.has .multiLine then .lineStop (fs.has .carriageReturns) else .stop
  | textStart => .start
  | textEnd => .stop
  | boundary => .boundary (fs.has .unicode)
  | noBoundary => .noBoundary (fs.has .unicode)
  | wordStart => .wordStart (fs.has .unicode)
  | wordEnd => .wordStop (fs.has .unicode)
  | wordStartHalf => .wordStartHalf (fs.has .unicode)
  | wordEndHalf => .wordStopHalf (fs.has .unicode)

/-- The form of a literal: a class, if there are other cases of it that count. -/
def literalForm (fs : Flags) (l : Literal) : Except Fault Form := do
  let n ← literalCode fs l
  let single := CharSet.range n n
  let cases := fs.fold single
  return if cases == single then .text (charBytes n) else fs.formOf cases

def Primitive.form (fs : Flags) : Primitive → Except Fault Form
  | literal l => literalForm fs l
  | dot span =>
    if fs.has .unicode then .ok (.ofSet (dotSet fs)) else .error ⟨.notUtf8, span, none⟩
  | assertion _ a => .ok (.look (a.look fs))
  | shorthand span negated s => (shorthandSet fs span negated s).map fs.formOf
  | property span negated q => (propertySet fs span negated q).map fs.formOf

mutual

/-- The plain form of a tree, and the flags that hold behind it. -/
def Tree.form (fs : Flags) : Tree → Except Fault (Form × Flags)
  | nothing _ => .ok (.empty, fs)
  | flags _ changes => .ok (.empty, fs.change changes)
  | primitive p => (p.form fs).map (·, fs)
  | bracketed span negated inner => do
    let s ← fs.written span negated (← inner.set fs)
    return (fs.formOf s, fs)
  | repetition _ least most greedy sub => do
    let (f, fs) ← form fs sub
    return (.repeated least most (greedy != fs.has .swapGreed) f, fs)
  | group _ (.captured index) sub => do
    let (f, _) ← form fs sub
    return (.capture index f, fs)
  | group _ (.flagged changes) sub => do
    let (f, _) ← form (fs.change changes) sub
    return (f, fs)
  | choice _ branches => do
    let (forms, fs) ← formsOf fs branches
    return (.ofBranches forms, fs)
  | sequence _ parts => do
    let (forms, fs) ← formsOf fs parts
    return (.ofParts forms, fs)

def Tree.formsOf (fs : Flags) : List Tree → Except Fault (List Form × Flags)
  | [] => .ok ([], fs)
  | t :: rest => do
    let (f, fs) ← form fs t
    let (forms, fs) ← formsOf fs rest
    return (f :: forms, fs)

end

end ChordRules.Pattern
