import ChordRules.Text.Cursor

/-! # Why a text is no pattern

A fault is shown below the line of the pattern where it lies. A pattern of several lines is shown
between two rules, each line with its number. -/
namespace ChordRules.Pattern

/-- What can be wrong with a pattern. -/
inductive Reason where
  | escapeInClass
  | rangeReversed
  | rangeBound
  | classOpen
  | countTooLarge
  | hexEmpty
  | hexNoCharacter
  | hexDigit
  | escapeCut
  | escapeUnknown
  | negationDangling
  | flagRepeated
  | negationRepeated
  | flagsCut
  | flagUnknown
  | groupNameTaken
  | groupNameEmpty
  | groupNameCharacter
  | groupNameOpen
  | groupOpen
  | groupNotOpen
  | tooDeep
  | countsReversed
  | countMissing
  | countOpen
  | nothingToRepeat
  | boundaryOpen
  | boundaryUnknown
  | boundaryCut
  | classNameBackslash
  | backreference
  | lookaround
  | outsideUnicode
  | notUtf8
  | propertyUnknown
  | propertyValueUnknown
  deriving DecidableEq, Repr

/-- How deep a pattern may nest. -/
def nestingLimit : Nat := 250

def Reason.message : Reason → String
  | escapeInClass => "invalid escape sequence found in character class"
  | rangeReversed => "invalid character class range, the start must be <= the end"
  | rangeBound => "invalid range boundary, must be a literal"
  | classOpen => "unclosed character class"
  | countTooLarge => "decimal literal invalid"
  | hexEmpty => "hexadecimal literal empty"
  | hexNoCharacter => "hexadecimal literal is not a Unicode scalar value"
  | hexDigit => "invalid hexadecimal digit"
  | escapeCut => "incomplete escape sequence, reached end of pattern prematurely"
  | escapeUnknown => "unrecognized escape sequence"
  | negationDangling => "dangling flag negation operator"
  | flagRepeated => "duplicate flag"
  | negationRepeated => "flag negation operator repeated"
  | flagsCut => "expected flag but got end of regex"
  | flagUnknown => "unrecognized flag"
  | groupNameTaken => "duplicate capture group name"
  | groupNameEmpty => "empty capture group name"
  | groupNameCharacter => "invalid capture group character"
  | groupNameOpen => "unclosed capture group name"
  | groupOpen => "unclosed group"
  | groupNotOpen => "unopened group"
  | tooDeep =>
    "exceed the maximum number of nested parentheses/brackets (" ++ showNat nestingLimit ++ ")"
  | countsReversed => "invalid repetition count range, the start must be <= the end"
  | countMissing => "repetition quantifier expects a valid decimal"
  | countOpen => "unclosed counted repetition"
  | nothingToRepeat => "repetition operator missing expression"
  | boundaryOpen =>
    "special word boundary assertion is either unclosed or contains an invalid character"
  | boundaryUnknown =>
    "unrecognized special word boundary assertion, valid choices are: " ++
      "start, end, start-half or end-half"
  | boundaryCut =>
    "found either the beginning of a special word boundary or a bounded repetition on a \\b " ++
      "with an opening brace, but no closing brace"
  | classNameBackslash => "invalid Unicode character class"
  | backreference => "backreferences are not supported"
  | lookaround => "look-around, including look-ahead and look-behind, is not supported"
  | outsideUnicode => "Unicode not allowed here"
  | notUtf8 => "pattern can match invalid UTF-8"
  | propertyUnknown => "Unicode property not found"
  | propertyValueUnknown => "Unicode property value not found"

/-- What is wrong with a pattern and where, with an earlier place if it contradicts one. -/
structure Fault where
  reason : Reason
  span : Span
  earlier : Option Span := none
  deriving DecidableEq, Repr

/-- The lines of a text without what ends them. A text that ends with a line end has no empty
line behind it. -/
def textLines (s : String) : List String :=
  let dropReturn (l : String) : String :=
    if l.toList.getLast? = some '\r' then String.ofList l.toList.dropLast else l
  let lines := s.splitOn "\n"
  (if lines.getLast? = some "" then lines.dropLast else lines).map dropReturn

def blanks (n : Nat) : String := String.ofList (List.replicate n ' ')

/-- Carets below the spans of one line, which stand in order. -/
def carets (written : Nat) : List Span → String
  | [] => ""
  | s :: rest =>
    let gap := s.start.column - 1 - written
    let width := max 1 (s.stop.column - s.start.column)
    blanks gap ++ String.ofList (List.replicate width '^') ++ carets (written + gap + width) rest

/-- The spans in the order of where they begin and end. -/
def inOrder (a b : Span) : Bool :=
  let key (s : Span) : List Nat := [s.start.line, s.start.column, s.stop.line, s.stop.column]
  !(decide (key b < key a))

/-- The lines of a pattern with carets below what the spans in them cover. -/
def notedLines (pattern : String) (spans : List Span) : String :=
  let lines := textLines pattern
  let count := lines.length + if pattern.toList.getLast? = some '\n' then 1 else 0
  let width := if count ≤ 1 then 0 else (showNat count).length
  let margin := if width = 0 then 4 else width + 2
  let lead (number : Nat) : String :=
    if width = 0 then blanks 4
    else blanks (width - (showNat number).length) ++ showNat number ++ ": "
  String.join <| lines.mapIdx fun i line =>
    let inLine := spans.filter fun s => s.start.line = i + 1 ∧ s.stop.line = i + 1
    lead (i + 1) ++ line ++ "\n" ++
      if inLine.isEmpty then "" else blanks margin ++ carets 0 inLine ++ "\n"

/-- What is said of spans that reach over several lines. -/
def spanNotes (spans : List Span) : String :=
  let wide := spans.filter fun s => s.start.line ≠ s.stop.line
  let note (s : Span) : String :=
    "on line " ++ showNat s.start.line ++ " (column " ++ showNat s.start.column ++
      ") through line " ++ showNat s.stop.line ++ " (column " ++ showNat (s.stop.column - 1) ++ ")"
  if wide.isEmpty then "" else "\n".intercalate (wide.map note) ++ "\n"

/-- The whole message of a fault in a pattern. -/
def Fault.message (pattern : String) (f : Fault) : String :=
  let spans := (f.span :: f.earlier.toList).mergeSort inOrder
  let rule := String.ofList (List.replicate 79 '~') ++ "\n"
  let lines := notedLines pattern spans
  "regex parse error:\n" ++
    (if pattern.toList.contains '\n' then rule ++ lines ++ rule ++ spanNotes spans else lines) ++
    "error: " ++ f.reason.message

end ChordRules.Pattern
