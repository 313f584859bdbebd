import ChordRules.Rule
import ChordRules.Text.Word

/-! # Values and variables

What a rule computes with: nothing, truth values, whole numbers of 64 bits that wrap around, and
texts. Operators accept few pairs of kinds; there are no conversions between kinds. A scope holds
the variables of the rules. It is seen through `get?`; a variable once set stays set. -/
namespace ChordRules

inductive Value where
  | nothing
  | boolean (b : Bool)
  | number (n : Int64)
  | text (s : String)
  deriving DecidableEq

inductive Kind where
  | nothing | boolean | number | text
  deriving DecidableEq, Repr

def Kind.name : Kind → String
  | nothing => "none"
  | boolean => "boolean"
  | number => "number"
  | text => "string"

namespace Value

instance : Inhabited Value := ⟨nothing⟩

def kind : Value → Kind
  | nothing => .nothing
  | boolean _ => .boolean
  | number _ => .number
  | text _ => .text

/-- Nothing, false, zero and the empty text count as false. -/
def isTrue : Value → Bool
  | nothing => false
  | boolean b => b
  | number n => n != 0
  | text s => s != ""

def render : Value → String
  | nothing => "none"
  | boolean b => if b then "true" else "false"
  | number n => showInt n.toInt
  | text s => s

/-- The order of two numbers, or of two texts character by character by code point. -/
def compare? : Value → Value → Option Ordering
  | number a, number b => some (compareOfLessAndEq a b)
  | text a, text b => some (compareOfLessAndEq a b)
  | _, _ => none

end Value

/-- Why evaluating a rule can fail. -/
inductive EvalError where
  | unknownVariable (name : String)
  | unknownFunction (name : String)
  | typeMismatch (op : Operator) (left right : Kind)
  | divisionByZero
  | notAssignable (target : String)
  deriving DecidableEq, Repr

def EvalError.message : EvalError → String
  | unknownVariable name => "unknown variable: " ++ name
  | unknownFunction name => "cannot find function: " ++ name
  | typeMismatch op left right =>
    "unsupported operand types for '" ++ op.symbol ++ "': " ++ left.name ++ " and " ++ right.name
  | divisionByZero => "division by zero"
  | notAssignable target => "cannot assign to " ++ target

/-- The result of arithmetic on two numbers. Quotients are truncated toward zero; everything
wraps around. -/
def Arithmetic.onNumbers (a b : Int64) : Arithmetic → Except EvalError Int64
  | add => .ok (a + b)
  | subtract => .ok (a - b)
  | multiply => .ok (a * b)
  | divide => if b = 0 then .error .divisionByZero else .ok (a / b)

def Arithmetic.apply (op : Arithmetic) : Value → Value → Except EvalError Value
  | .number a, .number b => (op.onNumbers a b).map .number
  | .text a, .text b =>
    if op = .add then .ok (.text (a ++ b))
    else .error (.typeMismatch (.arithmetic op) .text .text)
  | v, w => .error (.typeMismatch (.arithmetic op) v.kind w.kind)

/-- Whether a comparison holds of two values in the given order. -/
def Comparison.holds : Comparison → Ordering → Bool
  | less, o => o == .lt
  | greater, o => o == .gt
  | lessEqual, o => o != .gt
  | greaterEqual, o => o != .lt

def Comparison.apply (op : Comparison) (v w : Value) : Except EvalError Value :=
  match v.compare? w with
  | some o => .ok (.boolean (op.holds o))
  | none => .error (.typeMismatch (.comparison op) v.kind w.kind)


structure Scope where
  entries : List (String × Value)

namespace Scope

def empty : Scope := ⟨[]⟩

def get? (s : Scope) (name : String) : Option Value := s.entries.lookup name

def contains (s : Scope) (name : String) : Bool := (s.get? name).isSome

/-- Entries in which a name has a new value; a new name comes last. -/
def put (name : String) (v : Value) : List (String × Value) → List (String × Value)
  | [] => [(name, v)]
  | (n, w) :: rest => if n = name then (name, v) :: rest else (n, w) :: put name v rest

def set (s : Scope) (name : String) (v : Value) : Scope := ⟨put name v s.entries⟩

def ofList (entries : List (String × Value)) : Scope :=
  entries.foldl (fun s e => s.set e.1 e.2) empty

@[simp] theorem get?_empty (name : String) : empty.get? name = none := rfl

@[simp] theorem get?_set_self (s : Scope) (name : String) (v : Value) :
    (s.set name v).get? name = some v := by
  obtain ⟨entries⟩ := s
  induction entries with
  | nil => simp [set, put, get?]
  | cons e rest ih =>
    obtain ⟨n, w⟩ := e
    simp only [set, get?] at ih ⊢
    by_cases h : n = name
    · simp [put, h]
    · have h' : (name == n) = false := by simp [Ne.symm h]
      simp [put, h, List.lookup_cons, h', ih]

theorem get?_set_of_ne (s : Scope) {name other : String} (v : Value) (h : other ≠ name) :
    (s.set name v).get? other = s.get? other := by
  obtain ⟨entries⟩ := s
  have hne : (other == name) = false := by simp [h]
  induction entries with
  | nil => simp [set, put, get?, List.lookup_cons, hne]
  | cons e rest ih =>
    obtain ⟨n, w⟩ := e
    simp only [set, get?] at ih ⊢
    by_cases hn : n = name
    · simp [put, List.lookup_cons, hn, hne]
    · simp [put, List.lookup_cons, hn, ih]

theorem get?_set (s : Scope) (name other : String) (v : Value) :
    (s.set name v).get? other = if other = name then some v else s.get? other := by
  split
  · next h => rw [h, get?_set_self]
  · next h => exact get?_set_of_ne s v h

theorem contains_eq_false_iff {s : Scope} {name : String} :
    s.contains name = false ↔ s.get? name = none := by
  rw [contains, Option.isSome_eq_false_iff, Option.isNone_iff_eq_none]

end Scope
end ChordRules
