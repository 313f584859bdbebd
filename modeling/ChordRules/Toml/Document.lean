import ChordRules.Number.Binary64
import ChordRules.Toml.Fault

/-! # TOML documents

The values of a TOML document and the tables that its lines build up. A table remembers how it
came about, because that decides whether later lines may add to it: one with a header or in
braces is complete once written, one that stands only in front of a dot can be added to by
further dotted keys, and one that is only part of the path of a header by its own header.
Keys and values remember where they stand. -/
namespace ChordRules.Toml

/-- How a table came about. -/
inductive Origin where
  | header
  | onPath
  | dotted
  | braces
  deriving DecidableEq, Repr

structure Key where
  text : String
  span : Span
  deriving DecidableEq, Repr

/-- A key with its value. A table that only stands in front of a dot has no place of its own. -/
structure Entry (α : Type) where
  key : Key
  span : Option Span
  value : α

/-- The place to blame for a value. -/
def Entry.place {α : Type} (e : Entry α) : Span := e.span.getD e.key.span

inductive Value where
  | text (s : String)
  | integer (i : Int)
  | float (x : Binary64)
  | boolean (b : Bool)
  | moment
  | array (values : List (Value × Span))
  | table (origin : Origin) (entries : List (Entry Value))
  /-- Tables under one repeated header, last first. -/
  | tables (reversed : List (List (Entry Value) × Span))

/-- What a value is called when something is to be added below it. -/
def Value.kind : Value → String
  | text _ => "string"
  | integer _ => "integer"
  | float _ => "float"
  | boolean _ => "boolean"
  | moment => "datetime"
  | array _ => "array"
  | table .braces _ => "inline table"
  | table _ _ => "table"
  | tables _ => "array of tables"

abbrev Entries := List (Entry Value)

/-- Where a path of keys stands: in a header, before a value on a line, or in braces. -/
inductive PathKind where
  | header | line | braces
  deriving DecidableEq, Repr

namespace Entries

def get? (t : Entries) (key : String) : Option (Entry Value) := t.find? (·.key.text == key)

def value? (t : Entries) (key : String) : Option Value := (t.get? key).map (·.value)

/-- Puts an entry in the place of the one with its key, or at the end if there is none. -/
def put (t : Entries) (e : Entry Value) : Entries :=
  match t with
  | [] => [e]
  | d :: rest => if d.key.text = e.key.text then e :: rest else d :: put rest e

def remove (t : Entries) (key : String) : Entries := t.filter (·.key.text != key)

/-- Why nothing can be added to a table along a path, if so. -/
def barrier? (kind : PathKind) (origin : Origin) (walked : List String) (key : String) :
    Option Cause :=
  match kind, origin with
  | .header, .braces => some (.noTable walked "inline table")
  | .line, .braces => some (.noTable walked "inline table")
  | .line, .header => some (.duplicateKey key none)
  | .braces, .braces => some (.duplicateKey key none)
  | _, _ => none

/-- Changes the table at the end of a path. Tables missing on the way are made. -/
def change (kind : PathKind) (f : Origin → Entries → Except Cause Entries)
    (walked : List String) : List Key → Origin → Entries → Except Cause Entries
  | [], origin, t => f origin t
  | key :: path, _, t =>
    let walked := walked ++ [key.text]
    match t.get? key.text with
    | none => do
      let origin := if kind == .header then .onPath else .dotted
      let sub ← change kind f walked path origin []
      return t.put ⟨key, none, .table origin sub⟩
    | some e =>
      match e.value with
      | .table origin sub =>
        match barrier? kind origin walked key.text with
        | some cause => .error cause
        | none => do
          let sub ← change kind f walked path origin sub
          return t.put { e with value := .table origin sub }
      | .tables ((last, span) :: earlier) => do
        let last ← change kind f walked path .header last
        return t.put { e with value := .tables ((last, span) :: earlier) }
      | v => .error (.noTable walked v.kind)

/-- Adds the value of a key, dotted or not; `table` is the path to blame for a second value. -/
def add (kind : PathKind) (table : Option (List String)) (path : List Key) (e : Entry Value)
    (origin : Origin) (t : Entries) : Except Cause Entries :=
  t.change kind (fun origin t =>
    if (origin == .dotted) == path.isEmpty then .error (.duplicateKey e.key.text none)
    else if (t.get? e.key.text).isSome then .error (.duplicateKey e.key.text table)
    else .ok (t.put e)) [] path origin

end Entries

/-- A key as it has to be written: bare, or in the quotes that suit it. -/
def keyText (s : String) : String :=
  let cs := s.toList
  let isBare (c : Char) : Bool := c.isAlphanum || c == '_' || c == '-'
  if !cs.isEmpty && cs.all isBare then s
  else if cs.contains '"' && !cs.contains '\'' then "'" ++ s ++ "'"
  else "\"" ++ s ++ "\""

/-- The table at the top, with what its own lines cover. -/
structure Document where
  entries : Entries
  span : Span

/-- A document of which some lines have been read: the finished tables, and the one that lines
are being added to, with its path and what it covers. -/
structure Draft where
  root : Document
  current : Entries
  span : Span
  path : List Key
  repeated : Bool

namespace Draft

/-- The place of a table without lines at the top. -/
def nowhere : Span := ⟨.start, .start⟩

def empty : Draft := ⟨⟨[], nowhere⟩, [], nowhere, [], false⟩

/-- The tables of a repeated header with one more. -/
def addTable (key : Key) (earlier : List (Entries × Span)) (last : Entries) (span : Span) :
    Entry Value :=
  let first := (earlier.getLast?).elim span (·.2)
  ⟨key, some ⟨first.start, span.stop⟩, .tables ((last, span) :: earlier)⟩

/-- Puts the current table in its place. -/
def close (d : Draft) : Except Cause Document :=
  match d.path.getLast? with
  | none => .ok ⟨d.current, d.span⟩
  | some key => do
    let entries ← d.root.entries.change .header (fun _ t =>
      if d.repeated then
        match t.get? key.text with
        | some ⟨first, _, .tables earlier⟩ => .ok (t.put (addTable first earlier d.current d.span))
        | _ => .ok (t.put (addTable key [] d.current d.span))
      else .ok (t.put ⟨key, some d.span, .table .header d.current⟩)) [] d.path.dropLast .header
    return { d.root with entries }

/-- A header whose table is there already. -/
def duplicate (path : List Key) (key : Key) : Cause :=
  .duplicateKey (keyText key.text) (some (path.dropLast.map (·.text)))

/-- What the tables on a path hold; no table is missing on it. -/
def held (path : List Key) (t : Entries) : Entries :=
  match path with
  | [] => t
  | key :: path =>
    match t.value? key.text with
    | some (.table _ sub) => held path sub
    | some (.tables ((last, _) :: _)) => held path last
    | _ => []

/-- Begins the table of a header. What it holds already are the tables below it that came first. -/
def openTable (d : Draft) (path : List Key) (key : Key) (span : Span) : Except Cause Draft := do
  let root ← d.close
  let full := path ++ [key]
  let entries ← root.entries.change .header (fun _ t =>
    match t.value? key.text with
    | none | some (.table .onPath _) => .ok t
    | some _ => .error (duplicate full key)) [] path .header
  let found := held full entries
  let entries ← entries.change .header (fun _ t => .ok (t.remove key.text)) [] path .header
  return ⟨⟨entries, root.span⟩, found, span, full, false⟩

/-- Begins the next table of a repeated header. -/
def openRepeated (d : Draft) (path : List Key) (key : Key) (span : Span) : Except Cause Draft := do
  let root ← d.close
  let full := path ++ [key]
  let entries ← root.entries.change .header (fun _ t =>
    match t.value? key.text with
    | none => .ok t
    | some (.tables _) => .ok t
    | some _ => .error (duplicate full key)) [] path .header
  return ⟨⟨entries, root.span⟩, [], span, full, true⟩

/-- Adds a line to the current table. -/
def addLine (d : Draft) (path : List Key) (e : Entry Value) : Except Cause Draft := do
  let table := d.path.map (·.text)
  let current ← d.current.add .line (some table) path e .header
  return { d with current, span := ⟨d.span.start, e.place.stop⟩ }

end Draft
end ChordRules.Toml
