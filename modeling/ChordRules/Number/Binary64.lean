import ChordRules.Text.Word

/-! # Binary floating-point numbers

Numbers with a mantissa of 53 bits, and their decimal form. A decimal is rounded to the nearest
such number, a tie to the even mantissa. The decimal form of a number is the shortest that is
rounded back to it and, of those, the nearest, a tie going away from zero; it is written without
an exponent. All of it is exact arithmetic on natural numbers. -/
namespace ChordRules

inductive Binary64 where
  /-- The mantissa times a power of two. -/
  | finite (negative : Bool) (mantissa : Nat) (exponent : Int)
  | infinite (negative : Bool)
  | notANumber
  deriving DecidableEq, Repr

namespace Binary64

def powerOfTwo (n : Nat) : Nat := Nat.pow 2 n
def powerOfTen (n : Nat) : Nat := Nat.pow 10 n

/-- The mantissas are below this. -/
def mantissaLimit : Nat := powerOfTwo 53

/-- A quotient rounded to a natural number, a tie to the even neighbour. -/
def roundedQuotient (num den : Nat) : Nat :=
  let q := num / den
  let twice := 2 * (num % den)
  if twice < den then q else if den < twice then q + 1 else q + q % 2

/-- Mantissa and exponent nearest to a quotient of natural numbers, whatever the exponent. The
mantissa has 53 bits, or fewer if the exponent is the least. -/
def nearest (num den : Nat) : Nat × Int :=
  let scaled (e : Int) : Nat × Nat :=
    if 0 ≤ e then (num, den * powerOfTwo e.toNat) else (num * powerOfTwo (-e).toNat, den)
  let least : Int := -1074
  let guess := max ((Nat.log2 num : Int) - Nat.log2 den - 53) least
  let s := scaled guess
  let e := if mantissaLimit ≤ s.1 / s.2 then guess + 1 else guess
  let t := scaled e
  let m := roundedQuotient t.1 t.2
  if m = mantissaLimit then (mantissaLimit / 2, e + 1) else (m, e)

def largestExponent : Int := 971

/-- The nearest number to a decimal given by its digits as a number and a power of ten. Powers
that are too large or too small for any digits given need no arithmetic. -/
def ofDecimal (negative : Bool) (digits : Nat) (power : Int) : Binary64 :=
  if digits = 0 then finite negative 0 0
  else
    let size := (Nat.log2 digits : Int) * 30103 / 100000 + power
    if 400 < size then infinite negative
    else if size < -400 then finite negative 0 0
    else
      let r := if 0 ≤ power then nearest (digits * powerOfTen power.toNat) 1
        else nearest digits (powerOfTen (-power).toNat)
      if largestExponent < r.2 then infinite negative
      else if r.1 = 0 then finite negative 0 0
      else finite negative r.1 r.2

/-- The largest multiple of a power of ten that is no larger than a number, in that unit, and
whether the next multiple is at least as near. -/
def onGrid (mantissa : Nat) (exponent : Int) (power : Int) : Nat × Bool :=
  let num := mantissa * powerOfTwo exponent.toNat * powerOfTen (-power).toNat
  let den := powerOfTwo (-exponent).toNat * powerOfTen power.toNat
  (num / den, den ≤ 2 * (num % den))

/-- Of the two multiples of a power of ten next to a number the one that reads back, and the
nearer one if both do; if both are equally near, the larger one. -/
def readsBack? (mantissa : Nat) (exponent : Int) (power : Int) : Option Nat :=
  let here := onGrid mantissa exponent power
  let ok (n : Nat) : Bool := ofDecimal false n power == finite false mantissa exponent
  let nearer := if here.2 then here.1 + 1 else here.1
  let other := if here.2 then here.1 else here.1 + 1
  if ok nearer then some nearer else if ok other then some other else none

/-- Digits and power of ten of the shortest decimal that reads back, tried from the coarsest
grid given to finer ones. -/
def shortestFrom (mantissa : Nat) (exponent : Int) : Nat → Int → Nat × Int
  | 0, power => ((onGrid mantissa exponent power).1, power)
  | n + 1, power =>
    match readsBack? mantissa exponent power with
    | some digits => (digits, power)
    | none => shortestFrom mantissa exponent n (power - 1)

/-- A bit above the power of ten of a number. -/
def decimalPower (mantissa : Nat) (exponent : Int) : Int :=
  ((Nat.log2 mantissa : Int) + exponent) * 30103 / 100000 + 1

/-- Digits and a power of ten, without an exponent. -/
def positional (digits : List Char) (power : Int) : List Char :=
  if 0 ≤ power then digits ++ List.replicate power.toNat '0'
  else
    let places := (-power).toNat
    let padded := List.replicate (places + 1 - digits.length) '0' ++ digits
    padded.take (padded.length - places) ++ '.' :: padded.drop (padded.length - places)

/-- The decimal form; a whole number has no point. -/
def render : Binary64 → String
  | notANumber => "NaN"
  | infinite negative => if negative then "-inf" else "inf"
  | finite negative mantissa exponent =>
    let sign := if negative then "-" else ""
    if mantissa = 0 then sign ++ "0"
    else
      let r := shortestFrom mantissa exponent 20 (decimalPower mantissa exponent)
      sign ++ String.ofList (positional (digits r.1) r.2)

/-- The decimal form with a point even if the number is whole. -/
def renderWithPoint (x : Binary64) : String :=
  match x with
  | finite .. => if x.render.toList.contains '.' then x.render else x.render ++ ".0"
  | _ => x.render

end Binary64
end ChordRules
