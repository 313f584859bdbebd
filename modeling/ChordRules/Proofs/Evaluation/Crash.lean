import ChordRules.Proofs.Rule.Subtree
import ChordRules.Evaluation

/-! # Evaluation does not crash

A machine cannot divide by zero, nor the least number by minus one, and what applies an operator to
two values has nothing to do for assignment, `and` and `or`. `Rule.attempt` evaluates rules with
both of these partial and may therefore crash. It never does, and gives what evaluation gives
(`Rule.attempt_eq_eval`). -/
namespace ChordRules

/-- What ends a program on the spot. -/
inductive Crash where
  | overflow
  | zeroDivisor
  | unreachable (op : Operator)
  deriving DecidableEq, Repr

/-- The quotient of two numbers where a machine has one. -/
def machineQuotient (a b : Int64) : Except Crash Int64 :=
  if b = 0 then .error .zeroDivisor
  else if a = Int64.minValue ∧ b = -1 then .error .overflow
  else .ok (a / b)

def wrappingQuotient (a b : Int64) : Except Crash Int64 :=
  if a = Int64.minValue ∧ b = -1 then .ok Int64.minValue else machineQuotient a b

/-- Only a divisor of zero is left for a crash. -/
theorem wrappingQuotient_eq_ok {b : Int64} (hb : b ≠ 0) (a : Int64) :
    wrappingQuotient a b = .ok (a / b) := by
  rw [wrappingQuotient]
  split
  case isTrue h =>
    obtain ⟨rfl, rfl⟩ := h
    rw [Int64.minValue_div_neg_one]
  case isFalse h => rw [machineQuotient, if_neg hb, if_neg h]

example : machineQuotient Int64.minValue (-1) = .error .overflow ∧
    wrappingQuotient Int64.minValue (-1) = .ok Int64.minValue := ⟨rfl, rfl⟩

/-- Applies an operator to two values. The divisor is looked at before the machine divides. -/
def Operator.attempt (op : Operator) (u v : Value) : Except Crash (Except EvalError Value) :=
  match op with
  | .equal => .ok (.ok (.boolean (u == v)))
  | .comparison op => .ok (op.apply u v)
  | .arithmetic .divide =>
    match u, v with
    | .number a, .number b =>
      if b = 0 then .ok (.error .divisionByZero)
      else (wrappingQuotient a b).map fun q => .ok (.number q)
    | u, v => .ok (.error (.typeMismatch (.arithmetic .divide) u.kind v.kind))
  | .arithmetic op => .ok (op.apply u v)
  | .assign | .and | .or => .error (.unreachable op)

/-- Arithmetic does not crash: the divisor has been looked at, and quotients wrap around. -/
theorem Operator.attempt_arithmetic (op : Arithmetic) (u v : Value) :
    attempt (.arithmetic op) u v = .ok (op.apply u v) := by
  cases op with
  | add | subtract | multiply => rfl
  | divide =>
    cases u <;> cases v
    case number.number a b =>
      rw [attempt, Arithmetic.apply, Arithmetic.onNumbers]
      split
      · rfl
      · next hb =>
        rw [wrappingQuotient_eq_ok hb]
        rfl
    all_goals rfl

abbrev Attempt (σ α : Type) := Except Crash (Outcome σ α)

def Attempt.andThen (o : Attempt σ α) (f : α → World σ → Attempt σ β) : Attempt σ β :=
  match o with
  | .ok (.ok a, w) => f a w
  | .ok (.error e, w) => .ok (.error e, w)
  | .error c => .error c

/-- If neither step crashes, the two do not. -/
theorem Attempt.andThen_eq_ok {o : Attempt σ α} {o' : Outcome σ α} (ho : o = .ok o')
    {f : α → World σ → Attempt σ β} {f' : α → World σ → Outcome σ β}
    (hf : ∀ a w, f a w = .ok (f' a w)) : o.andThen f = .ok (o'.andThen f') := by
  subst ho
  obtain ⟨_ | a, w⟩ := o'
  · rfl
  · exact hf a w

namespace Rule

mutual

/-- Evaluates a rule on a machine that may crash. An operator that does not look at its operands
itself is applied to their values. -/
def attempt (fs : Registry σ) : Rule → World σ → Attempt σ Value
  | block ss, w => attemptBlock fs .nothing ss w
  | ifThen c t, w =>
    (attempt fs c w).andThen fun v w => if v.isTrue then attempt fs t w else .ok (.ok .nothing, w)
  | ifElse c t e, w =>
    (attempt fs c w).andThen fun v w => if v.isTrue then attempt fs t w else attempt fs e w
  | binary op l r, w =>
    match op with
    | .assign =>
      match l with
      | symbol name => (attempt fs r w).andThen fun v w => .ok (.ok v, w.assign name v)
      | target => .ok (.error (.notAssignable target.render), w)
    | .and =>
      (attempt fs l w).andThen fun v w => if v.isTrue then attempt fs r w else .ok (.ok v, w)
    | .or =>
      (attempt fs l w).andThen fun v w => if v.isTrue then .ok (.ok v, w) else attempt fs r w
    | op =>
      (attempt fs l w).andThen fun u w => (attempt fs r w).andThen fun v w =>
        (op.attempt u v).map fun x => (x, w)
  | call name arguments, w =>
    (attemptAll fs arguments w).andThen fun vs w =>
      match fs.find? name with
      | some f =>
        let r := w.call name f vs
        .ok (.ok r.1, r.2)
      | none => .ok (.error (.unknownFunction name), w)
  | text s, w => .ok (.ok (.text s), w)
  | number n, w => .ok (.ok (.number n), w)
  | symbol name, w =>
    match w.scope.get? name with
    | some v => .ok (.ok v, w)
    | none => .ok (.error (.unknownVariable name), w)

def attemptBlock (fs : Registry σ) (last : Value) : List Rule → World σ → Attempt σ Value
  | [], w => .ok (.ok last, w)
  | r :: rs, w => (attempt fs r w).andThen fun v w => attemptBlock fs v rs w

def attemptAll (fs : Registry σ) : List Rule → World σ → Attempt σ (List Value)
  | [], w => .ok (.ok [], w)
  | r :: rs, w =>
    (attempt fs r w).andThen fun v w =>
      (attemptAll fs rs w).andThen fun vs w => .ok (.ok (v :: vs), w)

end

variable {fs : Registry σ}

/-- A block crashes only where one of its rules does. -/
theorem attemptBlock_eq_ok {ss : List Rule}
    (h : ∀ s ∈ ss, ∀ w, s.attempt fs w = .ok (s.eval fs w)) (last : Value) (w : World σ) :
    attemptBlock fs last ss w = .ok (evalBlock fs last ss w) := by
  induction ss generalizing last w with
  | nil => rfl
  | cons s ss ih =>
    rw [attemptBlock, evalBlock]
    refine Attempt.andThen_eq_ok (h s List.mem_cons_self w) fun v w => ?_
    exact ih (fun s hs => h s (List.mem_cons_of_mem _ hs)) v w

theorem attemptAll_eq_ok {rs : List Rule}
    (h : ∀ r ∈ rs, ∀ w, r.attempt fs w = .ok (r.eval fs w)) (w : World σ) :
    attemptAll fs rs w = .ok (evalAll fs rs w) := by
  induction rs generalizing w with
  | nil => rfl
  | cons r rs ih =>
    rw [attemptAll, evalAll]
    refine Attempt.andThen_eq_ok (h r List.mem_cons_self w) fun v w => ?_
    refine Attempt.andThen_eq_ok (ih (fun r hr => h r (List.mem_cons_of_mem _ hr)) w) fun vs w => ?_
    rfl

/-- An operation whose operands do not crash does not crash either. -/
theorem attempt_binary_eq_ok (op : Operator) {l r : Rule}
    (hl : ∀ w, l.attempt fs w = .ok (l.eval fs w)) (hr : ∀ w, r.attempt fs w = .ok (r.eval fs w))
    (w : World σ) : attempt fs (binary op l r) w = .ok (eval fs (binary op l r) w) := by
  cases op with
  | assign =>
    cases l with
    | symbol name =>
      rw [attempt, eval]
      exact Attempt.andThen_eq_ok (hr w) fun v w => rfl
    | _ =>
      rw [attempt, eval]
      all_goals nofun
  | and | or =>
    rw [attempt, eval]
    refine Attempt.andThen_eq_ok (hl w) fun v w => ?_
    split
    · first | exact hr w | rfl
    · first | exact hr w | rfl
  | equal | comparison =>
    rw [attempt, eval]
    · exact Attempt.andThen_eq_ok (hl w) fun u w => Attempt.andThen_eq_ok (hr w) fun v w => rfl
    all_goals nofun
  | arithmetic op =>
    rw [attempt, eval]
    · refine Attempt.andThen_eq_ok (hl w) fun u w => Attempt.andThen_eq_ok (hr w) fun v w => ?_
      rw [Operator.attempt_arithmetic]
      rfl
    all_goals nofun

/-- Whatever the rule, the host functions and the world, evaluation does not crash. -/
theorem attempt_eq_eval (fs : Registry σ) (r : Rule) (w : World σ) :
    r.attempt fs w = .ok (r.eval fs w) := by
  induction r using Rule.induction generalizing w with
  | block ss ih =>
    rw [attempt, eval]
    exact attemptBlock_eq_ok ih .nothing w
  | ifThen c t ihc iht =>
    rw [attempt, eval]
    refine Attempt.andThen_eq_ok (ihc w) fun v w => ?_
    split
    · exact iht w
    · rfl
  | ifElse c t e ihc iht ihe =>
    rw [attempt, eval]
    refine Attempt.andThen_eq_ok (ihc w) fun v w => ?_
    split
    · exact iht w
    · exact ihe w
  | binary op l r ihl ihr => exact attempt_binary_eq_ok op ihl ihr w
  | call name args ih =>
    rw [attempt, eval]
    refine Attempt.andThen_eq_ok (attemptAll_eq_ok ih w) fun vs w => ?_
    cases fs.find? name with
    | some f => rfl
    | none => rfl
  | text s => rfl
  | number n => rfl
  | symbol name =>
    rw [attempt, eval]
    cases w.scope.get? name with
    | some v => rfl
    | none => rfl

end Rule
end ChordRules
