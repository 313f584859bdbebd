/-! # Characters, words and numerals

Decimal numerals are read and written in ASCII digits only. A number has exactly one canonical
numeral: no sign unless it is negative, and no leading zero. Hexadecimal numerals are written in
small letters without leading zeros, and read in letters of either case.

A class of characters is a list of inclusive ranges of code points. Blank means the White_Space
property of Unicode, not the smaller class that core calls whitespace; texts are trimmed and cut
into fields at blanks. Words are made of ASCII letters, digits and underscores; letters and digits
outside ASCII do not count. An underscore continues a word although no name may hold one. -/
namespace ChordRules

def isDigit (c : Char) : Bool := '0' ≤ c && c ≤ '9'

def digitValue (c : Char) : Nat := c.toNat - '0'.toNat

def digitChar (n : Nat) : Char := Char.ofNat ('0'.toNat + n)

/-- The number that a row of digits denotes; leading zeros do not matter. -/
def readDigits (cs : List Char) : Nat :=
  cs.foldl (fun n c => 10 * n + digitValue c) 0

@[simp] theorem readDigits_nil : readDigits [] = 0 := rfl

@[simp] theorem readDigits_concat (cs : List Char) (c : Char) :
    readDigits (cs ++ [c]) = 10 * readDigits cs + digitValue c := by
  simp [readDigits]

/-- The canonical numeral of a natural number. -/
def digits (n : Nat) : List Char :=
  if n < 10 then [digitChar n] else digits (n / 10) ++ [digitChar (n % 10)]

def showNat (n : Nat) : String := String.ofList (digits n)

def showInt (i : Int) : String :=
  if i < 0 then "-" ++ showNat i.natAbs else showNat i.natAbs

/-- Digits without a leading zero, or the digit zero alone. -/
def isCanonicalNumeral (cs : List Char) : Bool :=
  !cs.isEmpty && cs.all isDigit && (cs == ['0'] || cs.head? != some '0')

/-- An optional sign, then at least one digit; leading zeros are allowed. -/
def readSigned? (cs : List Char) : Option Int :=
  match cs with
  | '-' :: rest => (unsigned? rest).map fun n => -(n : Int)
  | '+' :: rest => (unsigned? rest).map fun n => (n : Int)
  | _ => (unsigned? cs).map fun n => (n : Int)
where
  unsigned? (cs : List Char) : Option Nat :=
    if !cs.isEmpty && cs.all isDigit then some (readDigits cs) else none

theorem digitValue_digitChar {n : Nat} (h : n < 10) : digitValue (digitChar n) = n := by
  match n, h with
  | 0, _ | 1, _ | 2, _ | 3, _ | 4, _ | 5, _ | 6, _ | 7, _ | 8, _ | 9, _ => rfl

theorem isDigit_digitChar {n : Nat} (h : n < 10) : isDigit (digitChar n) = true := by
  match n, h with
  | 0, _ | 1, _ | 2, _ | 3, _ | 4, _ | 5, _ | 6, _ | 7, _ | 8, _ | 9, _ => rfl

@[simp] theorem readDigits_digits (n : Nat) : readDigits (digits n) = n := by
  induction n using Nat.strongRecOn with
  | _ n ih =>
    rw [digits]
    split
    · next h => simp [readDigits, digitValue_digitChar h]
    · next h =>
      rw [readDigits_concat, ih _ (by omega), digitValue_digitChar (by omega)]
      omega

theorem all_isDigit_digits (n : Nat) : (digits n).all isDigit = true := by
  induction n using Nat.strongRecOn with
  | _ n ih =>
    rw [digits]
    split
    · next h => simp [isDigit_digitChar h]
    · next h => simp [ih (n / 10) (by omega), isDigit_digitChar (show n % 10 < 10 by omega)]


def hexDigit (n : Nat) : Char :=
  if n < 10 then Char.ofNat ('0'.toNat + n) else Char.ofNat ('a'.toNat + (n - 10))

/-- Lower-case hexadecimal digits without leading zeros. -/
def hexDigits (n : Nat) : List Char :=
  if n < 16 then [hexDigit n] else hexDigits (n / 16) ++ [hexDigit (n % 16)]

def hexDigitValue? (c : Char) : Option Nat :=
  if isDigit c then some (digitValue c)
  else if 'a' ≤ c ∧ c ≤ 'f' then some (c.toNat - 'a'.toNat + 10)
  else if 'A' ≤ c ∧ c ≤ 'F' then some (c.toNat - 'A'.toNat + 10)
  else none

/-- The number that a row of hexadecimal digits denotes. -/
def readHex? (cs : List Char) : Option Nat :=
  cs.foldlM (fun n c => (hexDigitValue? c).map (16 * n + ·)) 0


/-- Whether a code point lies in one of the ranges. -/
def inRanges (ranges : List (Nat × Nat)) (n : Nat) : Bool :=
  ranges.any fun r => r.1 ≤ n && n ≤ r.2

@[simp] theorem inRanges_nil (n : Nat) : inRanges [] n = false := rfl

@[simp] theorem inRanges_cons (r : Nat × Nat) (rs : List (Nat × Nat)) (n : Nat) :
    inRanges (r :: rs) n = ((decide (r.1 ≤ n) && decide (n ≤ r.2)) || inRanges rs n) := rfl


def blankRanges : List (Nat × Nat) :=
  [(0x9, 0xD), (0x20, 0x20), (0x85, 0x85), (0xA0, 0xA0), (0x1680, 0x1680), (0x2000, 0x200A),
   (0x2028, 0x2029), (0x202F, 0x202F), (0x205F, 0x205F), (0x3000, 0x3000)]

def isBlank (c : Char) : Bool := inRanges blankRanges c.toNat

/-- A text without the blanks at either end. -/
def trimBlank (cs : List Char) : List Char :=
  ((cs.dropWhile isBlank).reverse.dropWhile isBlank).reverse

/-- The fields of a text whose first field has begun with the given characters, last first. -/
def fieldsFrom (begun : List Char) : List Char → List (List Char)
  | [] => if begun.isEmpty then [] else [begun.reverse]
  | c :: cs =>
    if isBlank c then
      if begun.isEmpty then fieldsFrom [] cs else begun.reverse :: fieldsFrom [] cs
    else fieldsFrom (c :: begun) cs

/-- The longest pieces of a text that hold no blank, in order. -/
def fields (cs : List Char) : List (List Char) := fieldsFrom [] cs


def isLetter (c : Char) : Bool := ('a' ≤ c && c ≤ 'z') || ('A' ≤ c && c ≤ 'Z')

def isLetterOrDigit (c : Char) : Bool := isLetter c || isDigit c

def isWordChar (c : Char) : Bool := isLetterOrDigit c || c == '_'

end ChordRules
