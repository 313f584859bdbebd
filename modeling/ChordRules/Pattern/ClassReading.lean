import ChordRules.Pattern.Escape

/-! # Reading classes in brackets

A class is a union of characters, ranges and other classes. Classes nest, and between two unions
an operator may stand; operators group to the left. What is open is kept in a list, the innermost
class first, so that no text is too deep to be read. -/
namespace ChordRules.Pattern

/-- The names of the classes of ASCII characters. -/
def asciiNames : List String :=
  ["alnum", "alpha", "ascii", "blank", "cntrl", "digit", "graph", "lower", "print", "punct",
   "space", "upper", "word", "xdigit"]

/-- A class such as `[:alpha:]`, if one stands here. -/
def asciiClass? (k : Cursor) : Option (ClassTree × Cursor) :=
  match k.rest with
  | '[' :: ':' :: rest =>
    let negated := rest.head? == some '^'
    let name := (if negated then rest.tail else rest).takeWhile (· != ':')
    let length := (if negated then 3 else 2) + name.length
    match k.rest.drop length with
    | ':' :: ']' :: _ =>
      let after := k.advance (length + 2)
      if asciiNames.contains (String.ofList name) then
        some (.ascii ⟨k.position, after.position⟩ negated (String.ofList name), after)
      else none
    | _ => none
  | _ => none

/-- A union that is being read: its items, last first, and where it lies. -/
structure UnionDraft where
  items : List ClassTree
  span : Span

namespace UnionDraft

def add (u : UnionDraft) (item : ClassTree) : UnionDraft :=
  let start := if u.items.isEmpty then item.span.start else u.span.start
  ⟨item :: u.items, ⟨start, item.span.stop⟩⟩

def close (u : UnionDraft) : ClassTree :=
  match u.items with
  | [] => .nothing u.span
  | [item] => item
  | items => .union u.span items.reverse

end UnionDraft

/-- A class that is being read: the union at hand, and what stands before an operator. -/
structure ClassLevel where
  union : UnionDraft
  left : Option (ClassTree × ClassOperator)

/-- What has been read of the class, up to here. -/
def ClassLevel.close (l : ClassLevel) : ClassTree :=
  let right := l.union.close
  match l.left with
  | none => right
  | some (left, operator) => .combined ⟨left.span.start, right.span.stop⟩ operator left right

/-- An open bracket: where it stands with what belongs to it, whether a caret does, and the class
around it. -/
structure OpenClass where
  span : Span
  negated : Bool
  outer : Option ClassLevel

/-- Dashes right behind an opening bracket, which stand for themselves. -/
def leadingDashes (verbose : Bool) (bracket : Position) :
    Nat → UnionDraft → Cursor → Except Fault (UnionDraft × Cursor)
  | 0, u, k => .ok (u, k)
  | n + 1, u, k =>
    if k.rest.head? = some '-' then
      let next := skipNext verbose k
      if next.rest.isEmpty then fail .classOpen ⟨bracket, bracket⟩
      else leadingDashes verbose bracket n (u.add (.literal ⟨'-', false, k.charSpan⟩)) next
    else .ok (u, k)

/-- An opening bracket with what may stand right behind it: a caret, dashes, and a closing bracket
that stands for itself. -/
def openClass (verbose : Bool) (outer : Option ClassLevel) (k : Cursor) :
    Except Fault (OpenClass × ClassLevel × Cursor) := do
  let start := k.position
  let more (k : Cursor) : Except Fault Cursor :=
    let next := skipNext verbose k
    if next.rest.isEmpty then fail .classOpen ⟨start, next.position⟩ else .ok next
  let k ← more k
  let negated := k.rest.head? == some '^'
  let k ← if negated then more k else .ok k
  let (u, k) ← leadingDashes verbose start k.rest.length ⟨[], k.here⟩ k
  let (u, k) ←
    if u.items.isEmpty && k.rest.head? == some ']' then do
      let next ← more k
      .ok (u.add (.literal ⟨']', false, k.charSpan⟩), next)
    else .ok (u, k)
  return (⟨⟨start, k.position⟩, negated, outer⟩, ⟨u, none⟩, k)

/-- The character that decides whether a dash begins a range: the next but one, blanks and the
mark of a comment left out in a verbose pattern. -/
def behindDash (verbose : Bool) (k : Cursor) : Option Char :=
  let rest := k.rest.tail
  if verbose then
    let rest' := rest.dropWhile isBlank
    let shown := if rest'.head? = some '#' then rest'.tail.dropWhile isBlank else rest'
    (shown.head?).or rest.head?
  else rest.head?

/-- A character or an escape. -/
def classPrimitive (verbose : Bool) (k : Cursor) : Except Fault (Primitive × Cursor) :=
  match k.rest with
  | '\\' :: _ => escape verbose k
  | c :: _ => .ok (.literal ⟨c, false, k.charSpan⟩, k.step)
  | [] => .ok (.dot k.here, k)

/-- A primitive as an item of a class. -/
def Primitive.toClass : Primitive → Except Fault ClassTree
  | literal l => .ok (.literal l)
  | shorthand span negated s => .ok (.shorthand span negated s)
  | property span negated q => .ok (.property span negated q)
  | p => fail .escapeInClass p.span

/-- A primitive as the bound of a range. -/
def Primitive.toBound : Primitive → Except Fault Literal
  | literal l => .ok l
  | p => fail .rangeBound p.span

/-- An item of a class, or a range; `bracket` is the class that would be open at the end. -/
def classItem (verbose : Bool) (bracket : Span) (k : Cursor) :
    Except Fault (ClassTree × Cursor) := do
  let (first, k) ← classPrimitive verbose k
  let k := skip verbose k
  if k.rest.isEmpty then fail .classOpen bracket
  else
    let behind := behindDash verbose k
    if k.rest.head? ≠ some '-' ∨ behind = some ']' ∨ behind = some '-' then
      return (← first.toClass, k)
    else
      let k := skipNext verbose k
      if k.rest.isEmpty then fail .classOpen bracket
      else
        let (second, k) ← classPrimitive verbose k
        let span : Span := ⟨first.span.start, second.span.stop⟩
        let low ← first.toBound
        let high ← second.toBound
        if low.char ≤ high.char then return (.range span low high, k)
        else fail .rangeReversed span

/-- An operator between two unions, if one stands here. -/
def classOperator? (k : Cursor) : Option ClassOperator :=
  match k.rest with
  | '&' :: '&' :: _ => some .both
  | '-' :: '-' :: _ => some .first
  | '~' :: '~' :: _ => some .one
  | _ => none

/-- Reads on inside the innermost of the open classes, to the end of the outermost. -/
def classRest (verbose : Bool) :
    Nat → OpenClass → List OpenClass → ClassLevel → Cursor → Except Fault (Tree × Cursor)
  | 0, inner, _, _, _ => fail .classOpen inner.span
  | n + 1, inner, opened, level, k => do
    let k := skip verbose k
    let add (item : ClassTree) : ClassLevel := { level with union := level.union.add item }
    match k.rest with
    | [] => fail .classOpen inner.span
    | '[' :: _ =>
      match asciiClass? k with
      | some (item, k) => classRest verbose n inner opened (add item) k
      | none =>
        let (newest, empty, k) ← openClass verbose (some level) k
        classRest verbose n newest (inner :: opened) empty k
    | ']' :: _ =>
      let span : Span := ⟨inner.span.start, k.step.position⟩
      match inner.outer, opened with
      | some outer, next :: opened =>
        let item := ClassTree.bracketed span inner.negated level.close
        classRest verbose n next opened { outer with union := outer.union.add item } k.step
      | _, _ => return (.bracketed span inner.negated level.close, k.step)
    | _ =>
      match classOperator? k with
      | some operator =>
        let k := k.advance 2
        classRest verbose n inner opened ⟨⟨[], k.here⟩, some (level.close, operator)⟩ k
      | none =>
        let (item, k) ← classItem verbose inner.span k
        classRest verbose n inner opened (add item) k

/-- A class in brackets, from the opening one on. -/
def bracketedClass (verbose : Bool) (k : Cursor) : Except Fault (Tree × Cursor) := do
  let (inner, level, next) ← openClass verbose none k
  classRest verbose (k.rest.length + 1) inner [] level next

end ChordRules.Pattern
