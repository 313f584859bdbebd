import ChordRules.Report
import ChordRules.Rule
import ChordRules.Value

/-! # Evaluating rules

Rules are evaluated in a world: their variables, and a host whose functions they can call. The
host is of any type; its functions see the arguments and the host alone, never the variables.
The world also keeps the calls made and the lines logged so far. An evaluation that fails leaves
the world as it was at the point of failure. -/
namespace ChordRules

/-- What a host function gives back: a value, the host after the call, and lines for the log. -/
structure Answer (σ : Type) where
  value : Value
  host : σ
  log : List LogLine

/-- A function that a host offers to rules. -/
abbrev HostFunction (σ : Type) := List Value → σ → Answer σ

/-- The functions a host offers, by name. -/
structure Registry (σ : Type) where
  entries : List (String × HostFunction σ)

namespace Registry

def empty : Registry σ := ⟨[]⟩

def find? (fs : Registry σ) (name : String) : Option (HostFunction σ) := fs.entries.lookup name

def contains (fs : Registry σ) (name : String) : Bool := (fs.find? name).isSome

/-- Offers a function under a name, in place of any other of that name. -/
def register (fs : Registry σ) (name : String) (f : HostFunction σ) : Registry σ :=
  ⟨(name, f) :: fs.entries.filter (·.1 != name)⟩

/-- The names in ascending order. -/
def names (fs : Registry σ) : List String :=
  (fs.entries.map (·.1)).mergeSort (fun a b => decide (a ≤ b))

def describe (fs : Registry σ) : String :=
  "FunctionEnvironment \x7b functions: " ++ quoteAll fs.names ++ " \x7d"

end Registry

/-- A call that rules made. -/
structure Call where
  name : String
  arguments : List Value
  deriving DecidableEq

structure World (σ : Type) where
  scope : Scope
  host : σ
  calls : List Call
  log : List LogLine

namespace World

def ofHost (host : σ) : World σ := ⟨.empty, host, [], []⟩

def assign (w : World σ) (name : String) (v : Value) : World σ :=
  { w with scope := w.scope.set name v }

def report (w : World σ) (line : LogLine) : World σ := { w with log := w.log ++ [line] }

/-- Calls a host function that goes by the given name. -/
def call (w : World σ) (name : String) (f : HostFunction σ) (arguments : List Value) :
    Value × World σ :=
  let a := f arguments w.host
  (a.value, { w with host := a.host, calls := w.calls ++ [⟨name, arguments⟩],
                     log := w.log ++ a.log })

@[simp] theorem scope_report (w : World σ) (line : LogLine) :
    (w.report line).scope = w.scope := rfl
@[simp] theorem scope_call (w : World σ) (name : String) (f : HostFunction σ) (vs : List Value) :
    (w.call name f vs).2.scope = w.scope := rfl
@[simp] theorem scope_assign (w : World σ) (name : String) (v : Value) :
    (w.assign name v).scope = w.scope.set name v := rfl

end World

/-- What an evaluation gives, and the world it leaves. -/
abbrev Outcome (σ α : Type) := Except EvalError α × World σ

/-- Goes on after a success. -/
def Outcome.andThen (o : Outcome σ α) (f : α → World σ → Outcome σ β) : Outcome σ β :=
  match o with
  | (.ok a, w) => f a w
  | (.error e, w) => (.error e, w)

@[simp] theorem Outcome.andThen_ok (a : α) (w : World σ) (f : α → World σ → Outcome σ β) :
    Outcome.andThen (.ok a, w) f = f a w := rfl

@[simp] theorem Outcome.andThen_error (e : EvalError) (w : World σ)
    (f : α → World σ → Outcome σ β) :
    Outcome.andThen (.error e, w) f = (.error e, w) := rfl

namespace Rule

mutual

def eval (fs : Registry σ) : Rule → World σ → Outcome σ Value
  | block statements, w => evalBlock fs .nothing statements w
  | ifThen c t, w =>
    (eval fs c w).andThen fun v w => if v.isTrue then eval fs t w else (.ok .nothing, w)
  | ifElse c t e, w =>
    (eval fs c w).andThen fun v w => if v.isTrue then eval fs t w else eval fs e w
  | binary op l r, w =>
    match op with
    | .assign =>
      match l with
      | symbol name => (eval fs r w).andThen fun v w => (.ok v, w.assign name v)
      | target => (.error (.notAssignable target.render), w)
    | .and => (eval fs l w).andThen fun v w => if v.isTrue then eval fs r w else (.ok v, w)
    | .or => (eval fs l w).andThen fun v w => if v.isTrue then (.ok v, w) else eval fs r w
    | .equal =>
      (eval fs l w).andThen fun a w => (eval fs r w).andThen fun b w =>
        (.ok (.boolean (a == b)), w)
    | .comparison op =>
      (eval fs l w).andThen fun a w => (eval fs r w).andThen fun b w => (op.apply a b, w)
    | .arithmetic op =>
      (eval fs l w).andThen fun a w => (eval fs r w).andThen fun b w => (op.apply a b, w)
  | call name arguments, w =>
    (evalAll fs arguments w).andThen fun vs w =>
      match fs.find? name with
      | some f =>
        let r := w.call name f vs
        (.ok r.1, r.2)
      | none => (.error (.unknownFunction name), w)
  | text s, w => (.ok (.text s), w)
  | number n, w => (.ok (.number n), w)
  | symbol name, w =>
    match w.scope.get? name with
    | some v => (.ok v, w)
    | none => (.error (.unknownVariable name), w)

/-- The value of the last statement, or the given value if there is none. -/
def evalBlock (fs : Registry σ) (last : Value) : List Rule → World σ → Outcome σ Value
  | [], w => (.ok last, w)
  | r :: rs, w => (eval fs r w).andThen fun v w => evalBlock fs v rs w

/-- The values of all rules, from left to right. -/
def evalAll (fs : Registry σ) : List Rule → World σ → Outcome σ (List Value)
  | [], w => (.ok [], w)
  | r :: rs, w =>
    (eval fs r w).andThen fun v w => (evalAll fs rs w).andThen fun vs w => (.ok (v :: vs), w)

end

end Rule
end ChordRules
