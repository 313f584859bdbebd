import ChordRules.Text.Cursor
import ChordRules.Text.Word

/-! # Why a text is no document

A fault has a place, which is where reading could not go on or where the part begins that is wrong
as a whole. Its message names the part, what could stand there, and what is wrong with what does.
The place is shown by its line and column, the line itself, and carets below what is meant. Columns
count characters, and carets bytes. -/
namespace ChordRules.Toml

/-- What a document is made of. -/
inductive Construct where
  | key | tableHeader | array | inlineTable
  | string | basicString | literalString | manyLineString | manyLineLiteral
  | escape | shortCode | longCode
  | boolean | integer | hexadecimal | octal | binary | float
  | dateTime | time | offset
  deriving DecidableEq, Repr

def Construct.name : Construct → String
  | key => "key"
  | tableHeader => "table header"
  | array => "array"
  | inlineTable => "inline table"
  | string => "string"
  | basicString => "basic string"
  | literalString => "literal string"
  | manyLineString => "multiline basic string"
  | manyLineLiteral => "multiline literal string"
  | escape => "escape sequence"
  | shortCode => "unicode 4-digit hex code"
  | longCode => "unicode 8-digit hex code"
  | boolean => "boolean"
  | integer => "integer"
  | hexadecimal => "hexadecimal integer"
  | octal => "octal integer"
  | binary => "binary integer"
  | float => "floating-point number"
  | dateTime => "date-time"
  | time => "time"
  | offset => "time offset"

/-- What can be wrong with a part that has the right form. The key of a second value is told with
the path of its table, unless it is dotted or in braces. -/
inductive Cause where
  | duplicateKey (key : String) (table : Option (List String))
  | noTable (path : List String) (kind : String)
  | outOfRange
  | tooDeep
  | tooLarge
  | tooSmall
  deriving DecidableEq, Repr

def Cause.message : Cause → String
  | duplicateKey key none => "duplicate key `" ++ key ++ "`"
  | duplicateKey key (some []) => "duplicate key `" ++ key ++ "` in document root"
  | duplicateKey key (some path) =>
    "duplicate key `" ++ key ++ "` in table `" ++ ".".intercalate path ++ "`"
  | noTable path kind =>
    "dotted key `" ++ ".".intercalate path ++ "` attempted to extend non-table type (" ++ kind ++
      ")"
  | outOfRange => "value is out of range"
  | tooDeep => "recursion limit exceeded"
  | tooLarge => "number too large to fit in target type"
  | tooSmall => "number too small to fit in target type"

/-- A fault is final if what was read before it leaves no other way to read on. -/
structure Fault where
  place : Position
  construct : Option Construct := none
  expected : List String := []
  cause : Option Cause := none
  final : Bool := false
  deriving DecidableEq, Repr

def Fault.message (f : Fault) : String :=
  let named := f.construct.map fun c => "invalid " ++ c.name
  let expected :=
    if f.expected.isEmpty then none else some ("expected " ++ ", ".intercalate f.expected)
  "\n".intercalate ([named, expected, f.cause.map Cause.message].filterMap id)


/-- The place to show for a position, counted from zero. Behind the last line end it is shown
behind that line. A character of several bytes is counted with the bytes in front of it. -/
def shownPlace (lines : List String) (p : Position) : Nat × Nat :=
  let cs := (lines[p.line - 1]?.getD "").toList
  if p.line = lines.length ∧ 1 < lines.length ∧ cs.isEmpty then
    (p.line - 2, (lines[p.line - 2]?.getD "").length + 1)
  else
    let front := cs.take (p.column - 1)
    match cs[p.column - 1]? with
    | some c =>
      (p.line - 1, if c.toNat < 0x80 then front.length else (String.ofList front).utf8ByteSize)
    | none => (p.line - 1, front.length)

/-- How many characters of a text stand in front of a position. -/
def charsBefore (lines : List String) (p : Position) : Nat :=
  (lines.take (p.line - 1)).foldl (fun n l => n + l.length + 1) 0 + (p.column - 1)

/-- How many bytes a piece of a text has. -/
def bytesOf (source : String) (span : Span) : Nat :=
  let lines := source.splitOn "\n"
  let first := charsBefore lines span.start
  let piece := (source.toList.drop first).take (charsBefore lines span.stop - first)
  (String.ofList piece).utf8ByteSize

/-- A piece of a text with what is to be said of it. -/
def excerpt (source : String) (span : Span) (message : String) : String :=
  let lines := source.splitOn "\n"
  let (line, column) := shownPlace lines span.start
  let content := lines[line]?.getD ""
  let number := showNat (line + 1)
  let margin := String.ofList (List.replicate (number.length + 1) ' ') ++ "|"
  let width := max 1 (min (bytesOf source span) (content.utf8ByteSize - column))
  "TOML parse error at line " ++ number ++ ", column " ++ showNat (column + 1) ++ "\n" ++
    margin ++ "\n" ++ number ++ " | " ++ content ++ "\n" ++
    margin ++ String.ofList (List.replicate (column + 1) ' ' ++ List.replicate width '^') ++ "\n" ++
    message ++ "\n"

end ChordRules.Toml
