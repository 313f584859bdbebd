import ChordRules.Text.Utf8
import ChordRules.Text.Word

/-! # Addresses

The parts of an address: a scheme, an authority and a target. An address that begins with a
slash is a target alone, and one without a scheme is an authority alone. The host is what the
authority holds behind the last `@`, without a port; the port is what follows its last colon.

In a target a byte is escaped as a percent sign and its two upper-case hexadecimal digits. What may
stand in one segment of a path is left alone: printable ASCII except a few marks, the percent sign
among them. -/
namespace ChordRules

def upperHexDigit (n : Nat) : Char :=
  if n < 10 then Char.ofNat ('0'.toNat + n) else Char.ofNat ('A'.toNat + (n - 10))

def segmentMarks : List Char := [' ', '"', '#', '%', '/', '<', '>', '?', '`', '{', '}']

/-- Whether a byte stands for itself in a segment. -/
def isSegmentByte (b : UInt8) : Bool :=
  0x20 ≤ b && b < 0x7F && !segmentMarks.contains (Char.ofNat b.toNat)

def percentByte (b : UInt8) : List Char :=
  if isSegmentByte b then [Char.ofNat b.toNat]
  else ['%', upperHexDigit (b.toNat / 16), upperHexDigit (b.toNat % 16)]

def percentEncode (s : String) : String :=
  String.ofList ((utf8Bytes s).flatMap percentByte)


/-- Why a text is no address. -/
inductive AddressFault where
  | tooLong
  | badCharacter
  | badAuthority
  | badShape
  | schemeTooLong
  deriving DecidableEq, Repr

def AddressFault.message : AddressFault → String
  | tooLong => "uri too long"
  | badCharacter => "invalid uri character"
  | badAuthority => "invalid authority"
  | badShape => "invalid format"
  | schemeTooLong => "scheme too long"

structure Address where
  scheme : Option String
  authority : List Char
  target : List Char
  deriving DecidableEq, Repr

def lowerAscii (c : Char) : Char :=
  if 'A' ≤ c ∧ c ≤ 'Z' then Char.ofNat (c.toNat + 32) else c

def isSchemeChar (c : Char) : Bool := isLetterOrDigit c || ['+', '-', '.', '~'].contains c

/-- A scheme with what follows it, if the text has one. The two common schemes count in any case
of their letters. -/
def splitScheme (cs : List Char) : Except AddressFault (Option (String × List Char)) :=
  let lead := (cs.take 8).map lowerAscii
  if "http://".toList.isPrefixOf lead then .ok (some ("http", cs.drop 7))
  else if "https://".toList.isPrefixOf lead then .ok (some ("https", cs.drop 8))
  else
    let name := cs.takeWhile isSchemeChar
    match cs.dropWhile isSchemeChar with
    | ':' :: '/' :: '/' :: rest =>
      if cs.length ≤ 3 then .ok none
      else if 64 < name.length then .error .schemeTooLong
      else .ok (some (String.ofList name, rest))
    | _ => .ok none

def authorityMarks : List Char :=
  ['!', '$', '&', '\'', '(', ')', '*', '+', ',', '-', '.', ';', '=', '_', '~']

/-- What has been seen of an authority: the colons and percent signs since the last `@` or `]`,
the brackets, and whether the last character is an `@`. -/
structure AuthorityScan where
  colons : Nat
  percent : Bool
  opened : Bool
  closed : Bool
  endsInAt : Bool

def AuthorityScan.start : AuthorityScan := ⟨0, false, false, false, false⟩

def AuthorityScan.step (s : AuthorityScan) (c : Char) : Except AddressFault AuthorityScan :=
  let t := { s with endsInAt := false }
  if c = ':' then
    if 8 ≤ s.colons then .error .badAuthority else .ok { t with colons := s.colons + 1 }
  else if c = '[' then
    if s.percent || s.opened then .error .badAuthority else .ok { t with opened := true }
  else if c = ']' then
    if !s.opened || s.closed then .error .badAuthority
    else .ok { t with closed := true, colons := 0, percent := false }
  else if c = '@' then .ok { s with endsInAt := true, colons := 0, percent := false }
  else if c = '%' then .ok { t with percent := true }
  else if isLetterOrDigit c || authorityMarks.contains c then .ok t
  else .error .badCharacter

def AuthorityScan.finish (s : AuthorityScan) : Except AddressFault Unit :=
  if s.opened != s.closed || 1 < s.colons || s.endsInAt || s.percent then .error .badAuthority
  else .ok ()

def endsAuthority (c : Char) : Bool := c == '/' || c == '?' || c == '#'

/-- An authority with what follows it. -/
def splitAuthority (cs : List Char) : Except AddressFault (List Char × List Char) := do
  let authority := cs.takeWhile (!endsAuthority ·)
  (← authority.foldlM AuthorityScan.step .start).finish
  return (authority, cs.dropWhile (!endsAuthority ·))

/-- Neither a blank nor a control character of ASCII. -/
def isVisibleChar (c : Char) : Bool := 0x20 < c.toNat && c.toNat != 0x7F

def isTargetChar (c : Char) : Bool := isVisibleChar c && !(['#', '<', '>', '?', '`'].contains c)

def isQueryChar (c : Char) : Bool := isVisibleChar c && !(['"', '#', '<', '>'].contains c)

/-- A target: a path, and a query behind a question mark. A fragment is cut off. -/
def checkTarget (cs : List Char) : Except AddressFault (List Char) :=
  let path := cs.takeWhile isTargetChar
  match cs.dropWhile isTargetChar with
  | [] => .ok path
  | '#' :: _ => .ok path
  | '?' :: rest =>
    let query := rest.takeWhile isQueryChar
    match rest.dropWhile isQueryChar with
    | [] => .ok (path ++ '?' :: query)
    | '#' :: _ => .ok (path ++ '?' :: query)
    | _ => .error .badCharacter
  | _ => .error .badCharacter

def Address.ofText (s : String) : Except AddressFault Address := do
  if 65534 < s.utf8ByteSize then
    throw .tooLong
  if s.toList.head? = some '/' then
    return ⟨none, [], ← checkTarget s.toList⟩
  match ← splitScheme s.toList with
  | none =>
    let (authority, rest) ← splitAuthority s.toList
    if rest ≠ [] then throw .badShape
    return ⟨none, authority, []⟩
  | some (scheme, rest) =>
    let (authority, rest) ← splitAuthority rest
    if authority = [] then throw .badShape
    return ⟨some scheme, authority, ← checkTarget rest⟩

/-- What stands behind the last of some character, or everything. -/
def behindLast (mark : Char) (cs : List Char) : List Char :=
  (cs.reverse.takeWhile (· != mark)).reverse

def Address.host (a : Address) : List Char :=
  let place := behindLast '@' a.authority
  if place.head? = some '[' then place.takeWhile (· != ']') ++ [']']
  else place.takeWhile (· != ':')

/-- The port that an authority names, if it names one that exists. -/
def Address.port? (a : Address) : Option Nat :=
  if a.authority.contains ':' then
    let text := behindLast ':' a.authority
    let numeral := if text.head? = some '+' then text.tail else text
    if !numeral.isEmpty && numeral.all isDigit && readDigits numeral < 0x10000 then
      some (readDigits numeral)
    else none
  else none

end ChordRules
