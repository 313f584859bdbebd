import ChordRules.Character.Property
import ChordRules.Pattern.ClassReading

/-! # Reading patterns

A pattern is read from its first character to its last, and the first fault met is the one
reported. What is open is kept in a list, the innermost group first, so that no text is too deep
to be read; whether a tree is too deep is looked at once the whole of it is there.

The name of a group begins with a letter or an underscore; numbers, dots and brackets may follow.
Letters and numbers are those of version 17 of the Unicode Standard, which has some that classes
by name do not know. -/
namespace ChordRules.Pattern

def laterLetters : CharSet :=
  .ofTable
    ["88F C5C CDC A7CE-A7CF A7D2 A7D4 A7F1 10940-10959 10EC5-10EC7 10EFA-10EFB 11B60-11B67",
     "11DB0-11DDB 16EA0-16EB8 16EBB-16ED3 16FF2-16FF6 187F8-187FF 18D09-18D1E 18D80-18DF2",
     "1E6C0-1E6DE 1E6E0-1E6F5 1E6FE-1E6FF 2B73A-2B73F 2CEA2-2CEAD 323B0-33479"]

def laterNumbers : CharSet := .ofTable ["11DE0-11DE9 16FF4-16FF6"]

def letters : CharSet := Property.alphabetic.union laterLetters

def numbers : CharSet := (Category.groupSet 'n').union laterNumbers

def beginsGroupName (c : Char) : Bool := c == '_' || letters.contains c.toNat

def continuesGroupName (c : Char) : Bool :=
  beginsGroupName c || ['.', '[', ']'].contains c || numbers.contains c.toNat


/-- A row of parts that is being read: the parts, last first, and where the row begins; and the
branches before it. -/
structure Level where
  parts : List Tree
  start : Position
  branches : List Tree
  first : Position

namespace Level

def startingAt (p : Position) : Level := ⟨[], p, [], p⟩

def add (l : Level) (t : Tree) : Level := { l with parts := t :: l.parts }

/-- The row of parts up to a place. -/
def row (l : Level) (stop : Position) : Tree :=
  match l.parts with
  | [] => .nothing ⟨l.start, stop⟩
  | [t] => t
  | parts => .sequence ⟨l.start, stop⟩ parts.reverse

/-- Begins the next branch behind a bar. -/
def branch (l : Level) (stop next : Position) : Level :=
  { l with parts := [], start := next, branches := l.row stop :: l.branches }

/-- All branches up to a place. -/
def close (l : Level) (stop : Position) : Tree :=
  match l.branches with
  | [] => l.row stop
  | branches => .choice ⟨l.first, stop⟩ (l.row stop :: branches).reverse

end Level

/-- An open group: its parenthesis, its kind, and what it is part of. -/
structure OpenGroup where
  span : Span
  kind : GroupKind
  verbose : Bool
  outer : Level

/-- What has been read of a pattern. -/
structure Reader where
  cursor : Cursor
  verbose : Bool
  level : Level
  opened : List OpenGroup
  /-- How many groups there are that capture, and the names taken. -/
  captures : Nat
  names : List (List Char × Span)

namespace Reader

def start (pattern : String) : Reader :=
  ⟨.ofText pattern, false, .startingAt .start, [], 0, []⟩

/-- Takes a part and goes on behind it. -/
def take (r : Reader) (t : Tree) (k : Cursor) : Reader :=
  { r with cursor := k, level := r.level.add t }

end Reader

/-- The part that a repetition at the cursor repeats, and the level without it. -/
def repeated (r : Reader) : Except Fault (Tree × Level) :=
  match r.level.parts with
  | [] | .nothing _ :: _ | .flags _ _ :: _ => fail .nothingToRepeat r.cursor.here
  | t :: rest => .ok (t, { r.level with parts := rest })

/-- The cursor behind a question mark that asks for as little as can be, and whether there is
none. -/
def greed (k : Cursor) : Bool × Cursor :=
  if k.rest.head? = some '?' then (false, k.step) else (true, k)

/-- Ends a repetition whose mark ends before the cursor. -/
def repeatUpTo (r : Reader) (t : Tree) (level : Level) (least : Nat) (most : Option Nat)
    (greedy : Bool) (k : Cursor) : Reader :=
  let span : Span := ⟨t.span.start, k.position⟩
  { r with cursor := k, level := level.add (.repetition span least most greedy t) }

/-- A repetition that is written as one mark. -/
def markedRepetition (r : Reader) (least : Nat) (most : Option Nat) : Except Fault Reader := do
  let (t, level) ← repeated r
  let (greedy, k) := greed r.cursor.step
  return repeatUpTo r t level least most greedy k

/-- The blanks that stand here are skipped. -/
def skipBlanks (k : Cursor) : Cursor := k.advance (k.rest.takeWhile isBlank).length

/-- The digits that stand here, last first. -/
def countDigits (verbose : Bool) : Nat → List Char → Cursor → List Char × Cursor
  | 0, ds, k => (ds.reverse, k)
  | n + 1, ds, k =>
    match k.rest with
    | [] => (ds.reverse, k)
    | c :: _ =>
      if isDigit c then countDigits verbose n (c :: ds) (skipNext verbose k) else (ds.reverse, k)

/-- The blanks that stand here, and in a verbose pattern comments between them, are skipped. -/
def skipAfterCount (verbose : Bool) : Nat → Cursor → Cursor
  | 0, k => k
  | n + 1, k =>
    match k.rest with
    | [] => k
    | c :: _ => if isBlank c then skipAfterCount verbose n (skipNext verbose k) else k

def largestCount : Nat := 0xFFFFFFFF

/-- A number in braces, with blanks around it. Whether there is a number that will do is found at
once, but the place behind it is needed in any case. -/
def count (verbose : Bool) (k : Cursor) : Except Fault Nat × Cursor :=
  let k := skipBlanks k
  let (ds, stop) := countDigits verbose k.rest.length [] k
  let span : Span := ⟨k.position, stop.position⟩
  let value : Except Fault Nat :=
    if ds.isEmpty then fail .countMissing span
    else if largestCount < readDigits ds then fail .countTooLarge span
    else .ok (readDigits ds)
  (value, skipAfterCount verbose stop.rest.length stop)

/-- What stands in the braces of a repetition, up to the closing one. -/
def countsInBraces (verbose : Bool) (brace : Position) (k : Cursor) :
    Except Fault (Nat × Option Nat × Cursor) := do
  let unclosed {α : Type} (k : Cursor) : Except Fault α := fail .countOpen ⟨brace, k.position⟩
  let k := skipNext verbose k
  if k.rest.isEmpty then unclosed k
  else
    let (least, k) := count verbose k
    match k.rest with
    | [] => unclosed k
    | ',' :: _ =>
      let k := skipNext verbose k
      match k.rest with
      | [] => unclosed k
      | '}' :: _ => return (← least, none, k)
      | _ =>
        let least ← least
        let (most, k) := count verbose k
        return (least, some (← most), k)
    | _ =>
      let least ← least
      return (least, some least, k)

/-- A repetition with counts in braces. -/
def countedRepetition (r : Reader) : Except Fault Reader := do
  let (t, level) ← repeated r
  let brace := r.cursor.position
  let (least, most, k) ← countsInBraces r.verbose brace r.cursor
  if k.rest.head? ≠ some '}' then fail .countOpen ⟨brace, k.position⟩
  else
    let (greedy, k) := greed (skipNext r.verbose k)
    if most.any (· < least) then fail .countsReversed ⟨brace, k.position⟩
    else return repeatUpTo r t level least most greedy k

def flag? (c : Char) : Option Flag :=
  [('i', .caseless), ('m', .multiLine), ('s', .dotAll), ('U', .swapGreed), ('u', .unicode),
   ('R', .carriageReturns), ('x', .verbose)].lookup c

/-- Flags that have been read: the changes, last first, each with its place, the place of the
dash, and whether the dash came last. -/
structure FlagDraft where
  changes : List (Flag × Bool × Span)
  dash : Option Span
  dashLast : Bool

/-- Reads flags up to the colon or parenthesis behind them, where the cursor stays. -/
def flagChanges : Nat → FlagDraft → Cursor → Except Fault (FlagChanges × Cursor)
  | 0, _, k => fail .flagsCut k.here
  | n + 1, d, k => do
    let go (d : FlagDraft) : Except Fault (FlagChanges × Cursor) :=
      if k.step.rest.isEmpty then fail .flagsCut k.step.here else flagChanges n d k.step
    match k.rest with
    | [] => fail .flagsCut k.here
    | c :: _ =>
      if c = ':' ∨ c = ')' then
        match d.dashLast, d.dash with
        | true, some span => fail .negationDangling span
        | _, _ => return (d.changes.reverse.map fun x => (x.1, x.2.1), k)
      else if c = '-' then
        match d.dash with
        | some span => .error ⟨.negationRepeated, k.charSpan, some span⟩
        | none => go { d with dash := some k.charSpan, dashLast := true }
      else
        match flag? c with
        | none => fail .flagUnknown k.charSpan
        | some f =>
          match d.changes.lookup f with
          | some (_, span) => .error ⟨.flagRepeated, k.charSpan, some span⟩
          | none =>
            go { d with changes := (f, d.dash.isNone, k.charSpan) :: d.changes, dashLast := false }

/-- The name of a group up to its closing angle, where the cursor stays. Those characters that
were read come last first. -/
def groupName : Nat → List Char → Cursor → Except Fault (List Char × Cursor)
  | 0, _, k => fail .groupNameOpen k.here
  | n + 1, cs, k =>
    match k.rest with
    | [] => fail .groupNameOpen k.here
    | c :: _ =>
      if c = '>' then .ok (cs.reverse, k)
      else if if cs.isEmpty then beginsGroupName c else continuesGroupName c then
        groupName n (c :: cs) k.step
      else fail .groupNameCharacter k.charSpan

/-- Opens a group with a parenthesis at a place; reading goes on at the cursor. -/
def openGroup (r : Reader) (parenthesis : Span) (kind : GroupKind) (verbose : Bool) (k : Cursor) :
    Reader :=
  { r with cursor := k, verbose, level := .startingAt k.position,
           opened := ⟨parenthesis, kind, r.verbose, r.level⟩ :: r.opened }

/-- Opens a group that captures. -/
def openCapture (r : Reader) (parenthesis : Span) (k : Cursor) : Reader :=
  openGroup { r with captures := r.captures + 1 } parenthesis (.captured (r.captures + 1))
    r.verbose k

/-- Opens a group with a name, which begins at the cursor. -/
def openNamed (r : Reader) (parenthesis : Span) (k : Cursor) : Except Fault Reader := do
  let (name, close) ← groupName (k.rest.length + 1) [] k
  let span : Span := ⟨k.position, close.position⟩
  if name.isEmpty then fail .groupNameEmpty k.here
  else
    match r.names.lookup name with
    | some earlier => .error ⟨.groupNameTaken, span, some earlier⟩
    | none => return openCapture { r with names := (name, span) :: r.names } parenthesis close.step

/-- Whether the characters here begin with others, and how many those are. -/
def leads (s : String) (k : Cursor) : Bool := s.toList.isPrefixOf k.rest

/-- Flags behind a question mark: those of a group, or those that hold from here on. -/
def openFlags (r : Reader) (parenthesis question : Span) (k : Cursor) : Except Fault Reader := do
  if k.rest.isEmpty then fail .groupOpen parenthesis
  else
    let (changes, close) ← flagChanges (k.rest.length + 1) ⟨[], none, false⟩ k
    let verbose := (changes.lookup .verbose).getD r.verbose
    let after := close.step
    if close.rest.head? = some ':' then
      return openGroup r parenthesis (.flagged changes) verbose after
    else if changes.isEmpty then fail .nothingToRepeat question
    else
      let span : Span := ⟨parenthesis.start, after.position⟩
      return { r.take (.flags span changes) after with verbose }

/-- What begins with a parenthesis. -/
def parenthesis (r : Reader) : Except Fault Reader :=
  let span := r.cursor.charSpan
  let k := skipNext r.verbose r.cursor
  let look (length : Nat) : Except Fault Reader :=
    fail .lookaround ⟨span.start, (k.advance length).position⟩
  if leads "?=" k || leads "?!" k then look 2
  else if leads "?<=" k || leads "?<!" k then look 3
  else if leads "?P<" k then openNamed r span (k.advance 3)
  else if leads "?<" k then openNamed r span (k.advance 2)
  else if leads "?" k then openFlags r span k.here k.step
  else .ok (openCapture r span k)

/-- Closes the innermost group. -/
def closeGroup (r : Reader) : Except Fault Reader :=
  match r.opened with
  | [] => fail .groupNotOpen r.cursor.charSpan
  | g :: opened =>
    let after := r.cursor.step
    let span : Span := ⟨g.span.start, after.position⟩
    let group := Tree.group span g.kind (r.level.close r.cursor.position)
    .ok { r with cursor := after, verbose := g.verbose, level := g.outer.add group, opened }

/-- Reads one part, bar or parenthesis, which begins with the given character. -/
def readOne (r : Reader) (c : Char) : Except Fault Reader :=
  let primitive (p : Primitive) (k : Cursor) : Except Fault Reader := .ok (r.take (.primitive p) k)
  let span := r.cursor.charSpan
  let next := r.cursor.step
  if c = '(' then parenthesis r
  else if c = ')' then closeGroup r
  else if c = '|' then
    .ok { r with cursor := next, level := r.level.branch r.cursor.position next.position }
  else if c = '[' then (bracketedClass r.verbose r.cursor).map fun x => r.take x.1 x.2
  else if c = '?' then markedRepetition r 0 (some 1)
  else if c = '*' then markedRepetition r 0 none
  else if c = '+' then markedRepetition r 1 none
  else if c = '{' then countedRepetition r
  else if c = '\\' then (escape r.verbose r.cursor).map fun x => r.take (.primitive x.1) x.2
  else if c = '.' then primitive (.dot span) next
  else if c = '^' then primitive (.assertion span .lineStart) next
  else if c = '$' then primitive (.assertion span .lineEnd) next
  else primitive (.literal ⟨c, false, span⟩) next

def readAll : Nat → Reader → Except Fault Reader
  | 0, r => .ok r
  | n + 1, r =>
    let k := skip r.verbose r.cursor
    match k.rest with
    | [] => .ok { r with cursor := k }
    | c :: _ =>
      match readOne { r with cursor := k } c with
      | .ok r => readAll n r
      | .error f => .error f

/-- Reads a pattern to its end, where no group may be open. -/
def Tree.ofText (pattern : String) : Except Fault Tree := do
  let r ← readAll (pattern.length + 1) (.start pattern)
  match r.opened with
  | [] => return r.level.close r.cursor.position
  | g :: _ => fail .groupOpen g.span

end ChordRules.Pattern
