import ChordRules.Pattern.Fault
import ChordRules.Pattern.Syntax
import ChordRules.Text.Cursor
import ChordRules.Text.Word

/-! # Escapes in patterns

What stands behind a backslash: a character that has no meaning of its own then, a character
given by its code, a class, or a place between characters. In a verbose pattern blanks and
comments may stand between the parts of an escape. -/
namespace ChordRules.Pattern

/-- Fails at a span. -/
def fail {α : Type} (reason : Reason) (span : Span) : Except Fault α := .error ⟨reason, span, none⟩

/-- The cursor behind blanks and comments, if these are to be skipped. -/
def skip (verbose : Bool) (k : Cursor) : Cursor := if verbose then k.skipGap else k

/-- The cursor at what follows the next character. -/
def skipNext (verbose : Bool) (k : Cursor) : Cursor := skip verbose k.step

/-- The characters that mean something in a pattern. -/
def isMark (c : Char) : Bool := "\\.+*?()|[]\x7b\x7d^$#&-~".toList.contains c

/-- Whether a backslash before a character does nothing but take its meaning. -/
def isEscapable (c : Char) : Bool :=
  isMark c || (c.toNat < 0x80 && !isLetterOrDigit c && c != '<' && c != '>')

def scalar? (n : Nat) : Option Char :=
  if n < 0xD800 ∨ (0xE000 ≤ n ∧ n < 0x110000) then some (Char.ofNat n) else none

/-- As many hexadecimal digits as asked for. Those read come last first. -/
def fixedDigits (verbose : Bool) : Nat → List Char → Cursor → Except Fault (List Char × Cursor)
  | 0, ds, k => .ok (ds.reverse, k)
  | n + 1, ds, k =>
    match k.rest with
    | [] => fail .escapeCut k.here
    | c :: _ =>
      if (hexDigitValue? c).isNone then fail .hexDigit k.charSpan
      else fixedDigits verbose n (c :: ds) (skipNext verbose k)

/-- Hexadecimal digits up to a closing brace, where the cursor stays. -/
def bracedDigits (verbose : Bool) (brace : Position) :
    Nat → List Char → Cursor → Except Fault (List Char × Cursor)
  | 0, _, k => fail .escapeCut ⟨brace, k.position⟩
  | n + 1, ds, k =>
    match k.rest with
    | [] => fail .escapeCut ⟨brace, k.position⟩
    | c :: _ =>
      if c = '}' then .ok (ds.reverse, k)
      else if (hexDigitValue? c).isNone then fail .hexDigit k.charSpan
      else bracedDigits verbose brace n (c :: ds) (skipNext verbose k)

/-- A character by its code, from the letter behind the backslash on; the digits stand in braces
or are so many. -/
def codeEscape (verbose : Bool) (start : Position) (count : Nat) (k : Cursor) :
    Except Fault (Literal × Cursor) := do
  let k := skipNext verbose k
  let character (ds : List Char) (span : Span) : Except Fault Char :=
    match (readHex? ds).bind scalar? with
    | some c => .ok c
    | none => fail .hexNoCharacter span
  match k.rest with
  | [] => fail .escapeCut k.here
  | '{' :: _ =>
    let (ds, close) ← bracedDigits verbose k.position (k.rest.length + 1) [] (skipNext verbose k)
    let after := skipNext verbose close
    if ds.isEmpty then fail .hexEmpty ⟨k.position, after.position⟩
    else
      let c ← character ds ⟨k.step.position, close.position⟩
      return (⟨c, false, ⟨start, close.position⟩⟩, after)
  | _ =>
    let (ds, after) ← fixedDigits verbose count [] k
    let c ← character ds ⟨k.position, after.position⟩
    return (⟨c, count == 2, ⟨start, after.position⟩⟩, after)

/-- What stands before and behind the first place of a mark in a text. -/
def cutAt? (mark : List Char) : List Char → Option (List Char × List Char)
  | [] => none
  | c :: cs =>
    if mark.isPrefixOf (c :: cs) then some ([], (c :: cs).drop mark.length)
    else (cutAt? mark cs).map fun r => (c :: r.1, r.2)

/-- The class that a text in braces describes, and whether it is the one without the value. -/
def classQuery (text : List Char) : ClassQuery × Bool :=
  let valued (r : List Char × List Char) : ClassQuery :=
    .valued (String.ofList r.1) (String.ofList r.2)
  match cutAt? ['!', '='] text, cutAt? [':'] text, cutAt? ['='] text with
  | some r, _, _ => (valued r, true)
  | none, some r, _ => (valued r, false)
  | none, none, some r => (valued r, false)
  | none, none, none => (.named (String.ofList text), false)

/-- The characters up to a closing brace, where the cursor stays. Those read come last first. -/
def bracedName (verbose : Bool) : Nat → List Char → Cursor → Except Fault (List Char × Cursor)
  | 0, _, k => fail .escapeCut k.here
  | n + 1, cs, k =>
    match k.rest with
    | [] => fail .escapeCut k.here
    | c :: _ =>
      if c = '}' then .ok (cs.reverse, k) else bracedName verbose n (c :: cs) (skipNext verbose k)

/-- A class by its name, from the letter behind the backslash on. -/
def propertyEscape (verbose : Bool) (start : Position) (negated : Bool) (k : Cursor) :
    Except Fault (Primitive × Cursor) := do
  let k := skipNext verbose k
  match k.rest with
  | [] => fail .escapeCut k.here
  | '{' :: _ =>
    let (text, close) ← bracedName verbose (k.rest.length + 1) [] (skipNext verbose k)
    let (query, without) := classQuery text
    let after := close.step
    return (.property ⟨start, after.position⟩ (negated != without) query, after)
  | c :: _ =>
    if c = '\\' then fail .classNameBackslash k.charSpan
    else
      let after := skipNext verbose k
      return (.property ⟨start, after.position⟩ negated (.named (String.singleton c)), after)

def isBoundaryChar (c : Char) : Bool := isLetter c || c == '-'

/-- The letters and dashes that stand here, last first. -/
def boundaryName (verbose : Bool) : Nat → List Char → Cursor → List Char × Cursor
  | 0, cs, k => (cs.reverse, k)
  | n + 1, cs, k =>
    match k.rest with
    | [] => (cs.reverse, k)
    | c :: _ =>
      if isBoundaryChar c then boundaryName verbose n (c :: cs) (skipNext verbose k)
      else (cs.reverse, k)

def boundary? (name : String) : Option Assertion :=
  match name with
  | "start" => some .wordStart
  | "end" => some .wordEnd
  | "start-half" => some .wordStartHalf
  | "end-half" => some .wordEndHalf
  | _ => none

/-- A place at the edge of a word, from behind `\b` on. Braces that do not begin with a name are
left alone: they say how often to repeat. -/
def boundaryEscape (verbose : Bool) (start : Position) (k : Cursor) :
    Except Fault (Primitive × Cursor) :=
  let plain : Primitive × Cursor := (.assertion ⟨start, k.position⟩ .boundary, k)
  if k.rest.head? = some '{' then
    let first := skipNext verbose k
    match first.rest with
    | [] => fail .boundaryCut ⟨start, first.position⟩
    | c :: _ =>
      if !isBoundaryChar c then .ok plain
      else
        let (name, close) := boundaryName verbose first.rest.length [] first
        if close.rest.head? ≠ some '}' then fail .boundaryOpen ⟨k.position, close.position⟩
        else
          match boundary? (String.ofList name) with
          | some a => .ok (.assertion ⟨start, close.step.position⟩ a, close.step)
          | none => fail .boundaryUnknown ⟨first.position, close.position⟩
  else .ok plain

/-- The control characters that have a letter. -/
def controlChar? (c : Char) : Option Char :=
  [('a', '\x07'), ('f', '\x0c'), ('t', '\t'), ('n', '\n'), ('r', '\r'), ('v', '\x0b')].lookup c

def shorthand? (c : Char) : Option (Bool × Shorthand) :=
  [('d', false, .digit), ('s', false, .blank), ('w', false, .word),
   ('D', true, .digit), ('S', true, .blank), ('W', true, .word)].lookup c

def assertion? (c : Char) : Option Assertion :=
  [('A', .textStart), ('z', .textEnd), ('B', .noBoundary), ('<', .wordStart),
   ('>', .wordEnd)].lookup c

/-- An escape, from the backslash on. -/
def escape (verbose : Bool) (k : Cursor) : Except Fault (Primitive × Cursor) :=
  let start := k.position
  let k := k.step
  match k.rest with
  | [] => fail .escapeCut ⟨start, k.position⟩
  | c :: _ =>
    let after := k.step
    let span : Span := ⟨start, after.position⟩
    let code (count : Nat) : Except Fault (Primitive × Cursor) :=
      (codeEscape verbose start count k).map fun r => (.literal r.1, r.2)
    let literal (c : Char) : Except Fault (Primitive × Cursor) :=
      .ok (.literal ⟨c, false, span⟩, after)
    if isDigit c then fail .backreference span
    else if c = 'x' then code 2
    else if c = 'u' then code 4
    else if c = 'U' then code 8
    else if c = 'p' ∨ c = 'P' then propertyEscape verbose start (c == 'P') k
    else if c = 'b' then boundaryEscape verbose start after
    else if isEscapable c then literal c
    else
      match shorthand? c, controlChar? c, assertion? c with
      | some (negated, s), _, _ => .ok (.shorthand span negated s, after)
      | none, some control, _ => literal control
      | none, none, some a => .ok (.assertion span a, after)
      | none, none, none => fail .escapeUnknown span

end ChordRules.Pattern
