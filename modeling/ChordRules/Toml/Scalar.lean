import ChordRules.Toml.Document
import ChordRules.Toml.Text

/-! # Scalars of TOML

Texts, booleans, numbers and moments. What begins with a digit or a sign is read as a moment if
that can be done, else as a float, and else as an integer; a number that has the form of one and
does not fit is no number. -/
namespace ChordRules.Toml

open Scan

/-- Digits of some kind; behind an underscore there must be one. -/
def moreDigits (ok : Char → Bool) : Nat → Scan (List Char)
  | 0 => return []
  | n + 1 => do
    let ds ← takeWhile ok
    match ← next? with
    | some '_' => do
      skip 1
      let d ← final (expecting ["digit"] (one ok))
      return ds ++ d :: (← moreDigits ok n)
    | _ => return ds

/-- At least one digit of some kind. -/
def digitGroups (ok : Char → Bool) : Scan (List Char) := do
  let d ← one ok
  return d :: (← moreDigits ok (← fuel))

/-- Whether a minus sign stands here; a plus sign may as well. -/
def sign : Scan Bool := do
  match ← next? with
  | some '-' => do skip 1; return true
  | some '+' => do skip 1; return false
  | _ => return false

/-- A whole number without a leading zero: whether it is negative, and its digits. -/
def wholePart : Scan (Bool × List Char) :=
  called .integer do
    let negative ← sign
    match ← next? with
    | some '0' => do skip 1; return (negative, ['0'])
    | _ => return (negative, ← digitGroups isDigit)

/-- An integer that was read from some place on, if it fits 64 bits. -/
def fitting (start : Cursor) (i : Int) : Scan Value :=
  if i < -0x8000000000000000 then final (blame start .tooSmall)
  else if 0x8000000000000000 ≤ i then final (blame start .tooLarge)
  else return .integer i

/-- An integer in a base, behind a zero and a letter. -/
def inBase (c : Construct) (base : Nat) (ok : Char → Bool) : Scan Value := do
  let start ← get
  let ds ← called c do
    skip 2
    final (digitGroups ok)
  fitting start (ds.foldl (fun n c => base * n + (hexDigitValue? c).getD 0) 0 : Nat)

def integer : Scan Value := do
  let start ← get
  match start.rest with
  | '0' :: 'x' :: _ => inBase .hexadecimal 16 fun c => (hexDigitValue? c).isSome
  | '0' :: 'o' :: _ => inBase .octal 8 fun c => '0' ≤ c && c ≤ '7'
  | '0' :: 'b' :: _ => inBase .binary 2 fun c => c == '0' || c == '1'
  | _ =>
    let (negative, ds) ← wholePart
    let n : Int := readDigits ds
    fitting start (if negative then -n else n)

def exponent : Scan Int := do
  let _ ← one fun c => c == 'e' || c == 'E'
  let negative ← sign
  let n : Int := readDigits (← final (digitGroups isDigit))
  return if negative then -n else n

/-- A point and the digits behind it. -/
def fraction : Scan (List Char) := do
  char '.'
  final (expecting ["digit"] (digitGroups isDigit))

/-- What makes a number a float: the digits behind its point, and its exponent. -/
def floatRest : Scan (List Char × Int) :=
  either (do return ([], ← exponent)) do
    let ds ← fraction
    return (ds, (← attempt exponent).getD 0)

/-- A float in digits. It may not lie beyond the largest, but below the smallest. -/
def plainFloat : Scan Value := do
  let start ← get
  let (negative, ds) ← wholePart
  let (more, power) ← floatRest
  match Binary64.ofDecimal negative (readDigits (ds ++ more)) (power - more.length) with
  | .infinite false => final (throw { place := start.position })
  | x => return .float x

def infinity : Scan Binary64 := do
  exactly "inf"
  return .infinite false

def notANumber : Scan Binary64 := do
  exactly "nan"
  return .notANumber

def specialFloat : Scan Value := do
  let negative ← sign
  match ← either infinity notANumber with
  | .infinite _ => return .float (.infinite negative)
  | x => return .float x

def float : Scan Value := called .float (either plainFloat specialFloat)

/-- A number of a fixed count of digits that lies between two bounds. -/
def fixedNumber (count low high : Nat) : Scan Nat := do
  let start ← get
  let ds := start.rest.take count
  if ds.length = count ∧ ds.all isDigit then
    let n := readDigits ds
    if low ≤ n ∧ n ≤ high then do skip count; return n else blame start .outOfRange
  else refuse

def isLeapYear (year : Nat) : Bool := (year % 4 == 0 && year % 100 != 0) || year % 400 == 0

def daysOf (year month : Nat) : Nat :=
  if month = 2 then (if isLeapYear year then 29 else 28)
  else if [4, 6, 9, 11].contains month then 30 else 31

def date : Scan Unit := do
  let year ← fixedNumber 4 0 9999
  char '-'
  let month ← final (fixedNumber 2 1 12)
  final (char '-')
  let start ← get
  let day ← final (fixedNumber 2 1 31)
  if daysOf year month < day then final (blame start .outOfRange)

/-- Parts of a second. -/
def secondParts : Scan Unit := do
  char '.'
  let _ ← one isDigit
  let _ ← takeWhile isDigit

def time : Scan Unit := do
  let _ ← fixedNumber 2 0 23
  char ':'
  final do
    let _ ← fixedNumber 2 0 59
    char ':'
    let _ ← fixedNumber 2 0 60
    let _ ← attempt secondParts

/-- How far a time is from that of Greenwich. -/
def offset : Scan Unit :=
  called .offset do
    let c ← one fun c => ['Z', 'z', '+', '-'].contains c
    if c = '+' ∨ c = '-' then
      final do
        let _ ← fixedNumber 2 0 23
        char ':'
        let _ ← fixedNumber 2 0 59

/-- A date, with a time or without one. -/
def dateTime : Scan Unit :=
  called .dateTime do
    date
    let _ ← attempt do
      let _ ← one fun c => c == 'T' || c == 't' || c == ' '
      time
      let _ ← attempt offset

def moment : Scan Value := do
  either dateTime (called .time time)
  return .moment

/-- A word that stands for a value. Nothing else begins with its first letter. -/
def word (c : Construct) (s : String) (r : Scan Value) : Scan Value :=
  called c (expecting ["`" ++ s ++ "`"] r)

def boolean (s : String) (b : Bool) : Scan Value :=
  word .boolean s do
    final (exactly s)
    return .boolean b

/-- A value that is no array and no table. -/
def scalar : Scan Value := do
  match ← next? with
  | none => refuse
  | some '"' | some '\'' => return .text (String.ofList (← text))
  | some 't' => boolean "true" true
  | some 'f' => boolean "false" false
  | some 'i' => word .float "inf" (do return .float (← infinity))
  | some 'n' => word .float "nan" (do return .float (← notANumber))
  | some '_' => expecting ["leading digit"] integer
  | some '.' => expecting ["leading digit"] float
  | some c =>
    if c == '+' || c == '-' || isDigit c then either moment (either float integer)
    else called .string (expecting ["`\"`", "`'`"] refuse)

end ChordRules.Toml
