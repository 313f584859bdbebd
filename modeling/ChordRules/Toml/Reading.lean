import ChordRules.Toml.Scalar

/-! # Reading TOML documents

A document is read line by line: a key and its value, or the header of a table. Values may nest,
though not too deep; arrays may spread over lines and tables in braces may not. -/
namespace ChordRules.Toml

open Scan

/-- Neither values nor the parts of a key may nest this deep. -/
def nestingLimit : Nat := 80

/-- Blames the beginning of a part for what is wrong with it. -/
def checked {α : Type} (start : Cursor) : Except Cause α → Scan α
  | .ok a => return a
  | .error cause => blame start cause

def isBareKeyChar (c : Char) : Bool :=
  ('a' ≤ c && c ≤ 'z') || ('A' ≤ c && c ≤ 'Z') || isDigit c || c == '_' || c == '-'

/-- One part of a key. -/
def simpleKey : Scan (List Char) := do
  match ← next? with
  | some '"' => basicString
  | some '\'' => literalString
  | _ => do
    let c ← one isBareKeyChar
    return c :: (← takeWhile isBareKeyChar)

/-- One part of a key, with blanks around it. -/
def keyPart : Scan Key := do
  spaces
  let (cs, span) ← placed simpleKey
  spaces
  return ⟨String.ofList cs, span⟩

/-- More parts of a key, with a dot in front of each. -/
def moreKeyParts : Nat → Scan (List Key)
  | 0 => return []
  | n + 1 => do
    match ← attempt (do char '.'; keyPart) with
    | some part => return part :: (← moreKeyParts n)
    | none => return []

/-- A key: the path in front of its last part, and that part. -/
def key : Scan (List Key × Key) := do
  let start ← get
  let (first, rest) ← called .key do
    let first ← keyPart
    return (first, ← moreKeyParts (← fuel))
  if nestingLimit ≤ rest.length + 1 then blame start .tooDeep
  else return ((first :: rest).dropLast, rest.getLast?.getD first)

def equals : Scan Unit := expecting ["`.`", "`=`"] (char '=')

mutual

/-- A value with its place, that may nest so many levels more. -/
def value : Nat → Nat → Scan (Value × Span)
  | 0, _ => refuse
  | n + 1, depth => do
    match ← next? with
    | some '[' => do
      if depth = 0 then final (blame (← get) .tooDeep)
      else placed do return .array (← array n (depth - 1))
    | some '{' => do
      if depth = 0 then final (blame (← get) .tooDeep)
      else placed do return .table .braces (← inlineTable n (depth - 1))
    | _ => placed scalar

/-- An array in its brackets. -/
def array : Nat → Nat → Scan (List (Value × Span))
  | 0, _ => refuse
  | n + 1, depth => do
    char '['
    let vs ← final do
      if (← next?) == some ']' then return []
      else do
        let vs ← elements n depth
        if !vs.isEmpty then let _ ← attempt (char ',')
        gap (← fuel)
        return vs
    final (called .array (expecting ["`]`"] (char ']')))
    return vs

/-- One element of an array, with blanks, line ends and comments around it. -/
def element : Nat → Nat → Scan (Value × Span)
  | 0, _ => refuse
  | n + 1, depth => do
    gap (← fuel)
    let v ← value n depth
    gap (← fuel)
    return v

/-- Elements as far as there are any, with commas between them. -/
def elements : Nat → Nat → Scan (List (Value × Span))
  | 0, _ => return []
  | n + 1, depth => do
    match ← attempt (element n depth) with
    | none => return []
    | some v => return v :: (← moreElements n depth)

def moreElements : Nat → Nat → Scan (List (Value × Span))
  | 0, _ => return []
  | n + 1, depth => do
    match ← attempt (do char ','; element n depth) with
    | none => return []
    | some v => return v :: (← moreElements n depth)

/-- A table in its braces. -/
def inlineTable : Nat → Nat → Scan Entries
  | 0, _ => refuse
  | n + 1, depth => do
    char '{'
    let t ← final do
      let start ← get
      let pairs ← pairs n depth
      spaces
      checked start (pairs.foldlM (fun t p => Entries.add .braces none p.1 p.2 .braces t) [])
    final (called .inlineTable (expecting ["`\x7d`"] (char '}')))
    return t

/-- A key with its value in braces, and blanks around it. -/
def pair : Nat → Nat → Scan (List Key × Entry Value)
  | 0, _ => refuse
  | n + 1, depth => do
    let (path, key) ← key
    final do
      equals
      spaces
      let (v, span) ← value n depth
      spaces
      return (path, ⟨key, some span, v⟩)

/-- Keys and values as far as there are any, with commas between them. -/
def pairs : Nat → Nat → Scan (List (List Key × Entry Value))
  | 0, _ => return []
  | n + 1, depth => do
    match ← attempt (pair n depth) with
    | none => return []
    | some p => return p :: (← morePairs n depth)

def morePairs : Nat → Nat → Scan (List (List Key × Entry Value))
  | 0, _ => return []
  | n + 1, depth => do
    match ← attempt (do char ','; pair n depth) with
    | none => return []
    | some p => return p :: (← morePairs n depth)

end

/-- A key with its value, added to the current table. -/
def keyLine (d : Draft) : Scan Draft := do
  let start ← get
  let (path, key) ← key
  let (v, span) ← final do
    equals
    spaces
    let v ← value (4 * (← fuel)) (nestingLimit - 1)
    lineRest
    return v
  checked start (d.addLine path ⟨key, some span, v⟩)

/-- The header of a table. -/
def header (d : Draft) : Scan Draft :=
  called .tableHeader do
    let start ← get
    let repeated := "[[".toList.isPrefixOf start.rest
    if start.rest.length = 1 then refuse
    else do
      let closing := if repeated then "]]" else "]"
      let ((path, key), span) ← placed do
        skip closing.length
        let k ← final key
        final (expecting ["`.`", "`" ++ closing ++ "`"] (exactly closing))
        return k
      final lineRest
      checked start (if repeated then d.openRepeated path key span else d.openTable path key span)

/-- Adds lines to a draft, as far as there are any. -/
def readLines : Nat → Draft → Scan Draft
  | 0, d => return d
  | n + 1, d => do
    spaces
    match ← next? with
    | none => return d
    | some '#' => do
      final do
        comment
        lineEnd
      readLines n d
    | some '[' => do readLines n (← final (header d))
    | some '\n' | some '\r' =>
      match ← attempt newline with
      | some () => readLines n d
      | none => return d
    | _ => do readLines n (← final (keyLine d))

/-- Reads a document. A byte order mark may stand in front. -/
def Document.ofText (source : String) : Except Fault Document := do
  let read : Scan Document := do
    let _ ← attempt (char '\uFEFF')
    let d ← readLines (← fuel) .empty
    endOfText
    let stop ← get
    checked stop d.close
  return (← read (.ofText source)).1

end ChordRules.Toml
