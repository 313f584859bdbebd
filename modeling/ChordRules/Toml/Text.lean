import ChordRules.Text.Word
import ChordRules.Toml.Scan

/-! # Texts in TOML

Texts stand in double quotes, where a backslash begins an escape, or in single quotes, where it
does not; and between three quotes of a kind, where they may have many lines. -/
namespace ChordRules.Toml

open Scan

def isScalar (n : Nat) : Bool := n < 0xD800 || (0xE000 ≤ n && n < 0x110000)

/-- The character with the code point that a fixed number of hexadecimal digits gives. -/
def codeEscape (count : Nat) : Scan Char := do
  let start ← get
  let ds := (start.rest.take count).takeWhile fun c => (hexDigitValue? c).isSome
  match readHex? ds with
  | some n =>
    if ds.length ≠ count then refuse
    else if isScalar n then do skip count; return Char.ofNat n
    else blame start .outOfRange
  | none => refuse

/-- The letters and signs that a backslash stands in front of. -/
def escapeLetters : List String :=
  ["`b`", "`f`", "`n`", "`r`", "`t`", "`u`", "`U`", "`\\`", "`\"`"]

/-- A backslash and what stands behind it. -/
def escape : Scan Char := do
  char '\\'
  match ← next? with
  | none => refuse
  | some 'b' => do skip 1; return '\x08'
  | some 'f' => do skip 1; return '\x0c'
  | some 'n' => do skip 1; return '\n'
  | some 'r' => do skip 1; return '\r'
  | some 't' => do skip 1; return '\t'
  | some '\\' => do skip 1; return '\\'
  | some '"' => do skip 1; return '"'
  | some 'u' => do skip 1; final (called .shortCode (codeEscape 4))
  | some 'U' => do skip 1; final (called .longCode (codeEscape 8))
  | some c => do
    skip (if c.toNat < 0x80 then 1 else 0)
    final (called .escape (expecting escapeLetters refuse))

/-- Whether a character stands for itself in double quotes. -/
def isQuotable (c : Char) : Bool := isPlain c && c != '"' && c != '\\'

/-- Characters and escapes as far as there are any. -/
def quotedChars : Nat → Scan (List Char)
  | 0 => return []
  | n + 1 => do
    let cs ← takeWhile isQuotable
    match ← attempt escape with
    | some c => return cs ++ c :: (← quotedChars n)
    | none => return cs

def basicString : Scan (List Char) := do
  char '"'
  let cs ← quotedChars (← fuel)
  final (called .basicString (char '"'))
  return cs

def isLiteral (c : Char) : Bool := isPlain c && c != '\''

def literalString : Scan (List Char) :=
  called .literalString do
    char '\''
    let cs ← takeWhile isLiteral
    final (char '\'')
    return cs

/-- The quotes in front of the three that end a text, if it ends here. Up to two belong to it. -/
def quotesAtEnd (quote : Char) (cs : List Char) : Option (List Char) :=
  let count := min (cs.takeWhile (· == quote)).length 5
  if count < 3 then none else some (List.replicate (count - 3) quote)

/-- A backslash at the end of a line, with the blanks and line ends behind it. -/
def escapedLineEnd : Scan Unit := do
  char '\\'
  spaces
  newline
  blankLines (← fuel)

/-- The characters of a text between three double quotes. -/
def manyLineChars : Nat → Scan (List Char)
  | 0 => return []
  | n + 1 => do
    let cs ← takeWhile isQuotable
    let rest := (← get).rest
    match rest with
    | '"' :: _ =>
      match quotesAtEnd '"' rest with
      | some quotes => do
        skip quotes.length
        return cs ++ quotes
      | none =>
        let quotes := rest.takeWhile (· == '"')
        if quotes.length = rest.length then return cs
        else do
          skip quotes.length
          return cs ++ quotes ++ (← manyLineChars n)
    | '\\' :: _ =>
      match ← attempt escapedLineEnd with
      | some () => return cs ++ (← manyLineChars n)
      | none =>
        match ← attempt escape with
        | some c => return cs ++ c :: (← manyLineChars n)
        | none => return cs
    | _ =>
      match ← attempt newline with
      | some () => return cs ++ '\n' :: (← manyLineChars n)
      | none => return cs

def manyLineString : Scan (List Char) :=
  called .manyLineString do
    exactly "\"\"\""
    let _ ← attempt newline
    let cs ← manyLineChars (← fuel)
    final (exactly "\"\"\"")
    return cs

/-- Whether a text in single quotes goes on here. -/
def literalGoesOn : List Char → Bool
  | '\n' :: _ => true
  | '\r' :: '\n' :: _ => true
  | c :: _ => isLiteral c
  | [] => false

/-- The characters of a text between three single quotes. -/
def manyLineLiterals : Nat → Scan (List Char)
  | 0 => return []
  | n + 1 => do
    let cs ← takeWhile isLiteral
    let rest := (← get).rest
    match rest with
    | '\'' :: _ =>
      match quotesAtEnd '\'' rest with
      | some quotes => do
        skip quotes.length
        return cs ++ quotes
      | none =>
        let quotes := rest.takeWhile (· == '\'')
        if literalGoesOn (rest.drop quotes.length) then do
          skip quotes.length
          return cs ++ quotes ++ (← manyLineLiterals n)
        else return cs
    | _ =>
      match ← attempt newline with
      | some () => return cs ++ '\n' :: (← manyLineLiterals n)
      | none => return cs

def manyLineLiteral : Scan (List Char) :=
  called .manyLineLiteral do
    exactly "'''"
    let _ ← attempt newline
    let cs ← manyLineLiterals (← fuel)
    final (exactly "'''")
    return cs

/-- A text in quotes of any kind. -/
def text : Scan (List Char) := do
  match (← get).rest with
  | '"' :: '"' :: '"' :: _ => manyLineString
  | '\'' :: '\'' :: '\'' :: _ => manyLineLiteral
  | '\'' :: _ => literalString
  | _ => basicString

end ChordRules.Toml
