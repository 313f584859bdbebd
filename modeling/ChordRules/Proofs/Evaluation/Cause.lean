import ChordRules.Evaluation
import ChordRules.Proofs.Rule.Subtree

/-! # Where evaluation errors come from

Every error is raised by some part of the rule itself (`Raises`), in the world that the evaluation
leaves (`blames_of_eval`). What an assignment assigns to is not evaluated, so it is no part. -/
namespace ChordRules

/-- `Part p r`: the rule has this part, and an evaluation may come to it. -/
inductive Rule.Part (p : Rule) : Rule → Prop
  | whole : Part p p
  | statement {s : Rule} {ss : List Rule} (hs : s ∈ ss) (h : Part p s) : Part p (.block ss)
  | ifThenCondition {c t : Rule} (h : Part p c) : Part p (.ifThen c t)
  | ifThenBody {c t : Rule} (h : Part p t) : Part p (.ifThen c t)
  | ifElseCondition {c t e : Rule} (h : Part p c) : Part p (.ifElse c t e)
  | ifElseBody {c t e : Rule} (h : Part p t) : Part p (.ifElse c t e)
  | ifElseOther {c t e : Rule} (h : Part p e) : Part p (.ifElse c t e)
  | left {op : Operator} {l r : Rule} (hop : op ≠ .assign) (h : Part p l) :
      Part p (.binary op l r)
  | right {op : Operator} {l r : Rule} (h : Part p r) : Part p (.binary op l r)
  | argument {a : Rule} {name : String} {args : List Rule} (ha : a ∈ args) (h : Part p a) :
      Part p (.call name args)

theorem Rule.Part.mem_subtrees {p r : Rule} (h : Rule.Part p r) : p ∈ r.subtrees := by
  induction h with
  | whole => exact self_mem_subtrees p
  | statement hs _ ih => exact mem_subtrees_of_child hs ih
  | argument ha _ ih => exact mem_subtrees_of_child ha ih
  | ifThenCondition _ ih | ifThenBody _ ih | ifElseCondition _ ih | ifElseBody _ ih
  | ifElseOther _ ih | left _ _ ih | right _ ih =>
    exact mem_subtrees_of_child (by simp [children]) ih

/-- `Raises fs w p e`: the error comes from this rule itself and not from a part of it. -/
inductive Rule.Raises (fs : Registry σ) (w : World σ) : Rule → EvalError → Prop
  | variable {name : String} (h : w.scope.get? name = none) :
      Raises fs w (.symbol name) (.unknownVariable name)
  | function {name : String} {args : List Rule} (h : fs.find? name = none) :
      Raises fs w (.call name args) (.unknownFunction name)
  | arithmetic {op : Arithmetic} {l r : Rule} {a b : Value} {e : EvalError}
      (h : op.apply a b = .error e) : Raises fs w (.binary (.arithmetic op) l r) e
  | comparison {op : Comparison} {l r : Rule} {a b : Value} {e : EvalError}
      (h : op.apply a b = .error e) : Raises fs w (.binary (.comparison op) l r) e
  | target {l r : Rule} (h : l.isSymbol = false) :
      Raises fs w (.binary .assign l r) (.notAssignable l.render)

/-- The kinds of two values that an operator does not accept: arithmetic is for two numbers,
adding and comparing also for two texts. All other operators take what comes. -/
def Operator.Refuses (op : Operator) (k l : Kind) : Prop :=
  match op with
  | .arithmetic op => ¬ (k = .number ∧ l = .number) ∧ (op = .add → ¬ (k = .text ∧ l = .text))
  | .comparison _ => ¬ (k = .number ∧ l = .number) ∧ ¬ (k = .text ∧ l = .text)
  | .equal | .assign | .and | .or => False

/-- Arithmetic on numbers fails only where zero is the divisor. -/
theorem Arithmetic.onNumbers_eq_error_iff {op : Arithmetic} {m n : Int64} {e : EvalError} :
    op.onNumbers m n = .error e ↔ op = .divide ∧ n = 0 ∧ e = .divisionByZero := by
  cases op with
  | divide =>
    by_cases hn : n = 0
    · simp [onNumbers, hn, eq_comm]
    · simp [onNumbers, hn]
  | multiply | add | subtract => simp [onNumbers]

/-- Arithmetic fails on kinds that it refuses, and on a divisor of zero. -/
theorem Arithmetic.apply_eq_error_iff {op : Arithmetic} {a b : Value} {e : EvalError} :
    op.apply a b = .error e ↔
      (Operator.Refuses (.arithmetic op) a.kind b.kind ∧
        e = .typeMismatch (.arithmetic op) a.kind b.kind) ∨
      (op = .divide ∧ a.kind = .number ∧ b = .number 0 ∧ e = .divisionByZero) := by
  simp only [Operator.Refuses]
  cases a <;> cases b
  case number.number m n =>
    simp only [apply, Value.kind]
    cases h : op.onNumbers m n with
    | error e' =>
      obtain ⟨rfl, rfl, rfl⟩ := onNumbers_eq_error_iff.1 h
      simp [Except.map, eq_comm]
    | ok k =>
      have hdivide : ¬ (op = .divide ∧ n = 0) := by
        rintro ⟨rfl, rfl⟩
        cases h
      simp_all [Except.map]
  case text.text s t =>
    by_cases hop : op = .add
    · simp [apply, Value.kind, hop]
    · simp [apply, Value.kind, hop, eq_comm]
  all_goals simp [apply, Value.kind, eq_comm]

/-- Only two numbers and two texts can be compared. -/
theorem Value.compare?_eq_none_iff {a b : Value} :
    a.compare? b = none ↔
      ¬ (a.kind = .number ∧ b.kind = .number) ∧ ¬ (a.kind = .text ∧ b.kind = .text) := by
  cases a <;> cases b
  case number.number => exact iff_of_false (Option.some_ne_none _) fun h => h.1 ⟨rfl, rfl⟩
  case text.text => exact iff_of_false (Option.some_ne_none _) fun h => h.2 ⟨rfl, rfl⟩
  all_goals simp [compare?, kind]

/-- Comparisons fail on kinds that they refuse. -/
theorem Comparison.apply_eq_error_iff {op : Comparison} {a b : Value} {e : EvalError} :
    op.apply a b = .error e ↔
      Operator.Refuses (.comparison op) a.kind b.kind ∧
        e = .typeMismatch (.comparison op) a.kind b.kind := by
  rw [Operator.Refuses, ← Value.compare?_eq_none_iff, apply]
  cases a.compare? b with
  | none => simp [eq_comm]
  | some o => simp

/-- A sequence fails if its first step fails, or else its second. -/
theorem Outcome.andThen_eq_error {o : Outcome σ α} {f : α → World σ → Outcome σ β}
    {e : EvalError} {w : World σ} (h : o.andThen f = (.error e, w)) :
    o = (.error e, w) ∨ ∃ a w', o = (.ok a, w') ∧ f a w' = (.error e, w) := by
  obtain ⟨_ | a, w'⟩ := o
  · obtain ⟨he, rfl⟩ := Prod.mk.inj h
    cases he
    exact .inl rfl
  · exact .inr ⟨a, w', rfl, h⟩

namespace Rule

variable {fs : Registry σ} {e : EvalError} {w w' : World σ}

/-- A block fails because one of its rules does. -/
theorem evalBlock_eq_error {last : Value} {rs : List Rule}
    (h : evalBlock fs last rs w = (.error e, w')) :
    ∃ r ∈ rs, ∃ w₁, eval fs r w₁ = (.error e, w') := by
  induction rs generalizing last w with
  | nil => cases h
  | cons r rs ih =>
    rcases Outcome.andThen_eq_error h with h | ⟨v, w₁, -, h⟩
    · exact ⟨r, List.mem_cons_self, w, h⟩
    · obtain ⟨s, hs, hw⟩ := ih h
      exact ⟨s, List.mem_cons_of_mem r hs, hw⟩

/-- Evaluating several rules fails because one of them does. -/
theorem evalAll_eq_error {rs : List Rule} (h : evalAll fs rs w = (.error e, w')) :
    ∃ r ∈ rs, ∃ w₁, eval fs r w₁ = (.error e, w') := by
  induction rs generalizing w with
  | nil => cases h
  | cons r rs ih =>
    rcases Outcome.andThen_eq_error h with h | ⟨v, w₁, -, h⟩
    · exact ⟨r, List.mem_cons_self, w, h⟩
    · rcases Outcome.andThen_eq_error h with h | ⟨vs, w₂, -, h⟩
      · obtain ⟨s, hs, hw⟩ := ih h
        exact ⟨s, List.mem_cons_of_mem r hs, hw⟩
      · cases h

/-- An operator that looks at both values fails in an operand, or on their values. -/
theorem both_eq_error {l r : Rule} {f : Value → Value → Except EvalError Value}
    (h : (eval fs l w).andThen (fun a w => (eval fs r w).andThen fun b w => (f a b, w)) =
      (.error e, w')) :
    (∃ w₁, eval fs l w₁ = (.error e, w')) ∨ (∃ w₁, eval fs r w₁ = (.error e, w')) ∨
      ∃ a b, f a b = .error e := by
  rcases Outcome.andThen_eq_error h with h | ⟨a, w₁, -, h⟩
  · exact .inl ⟨w, h⟩
  · rcases Outcome.andThen_eq_error h with h | ⟨b, w₂, -, h⟩
    · exact .inr (.inl ⟨w₁, h⟩)
    · exact .inr (.inr ⟨a, b, (Prod.mk.inj h).1⟩)

theorem isSymbol_eq_true_iff {r : Rule} : r.isSymbol = true ↔ ∃ name, r = .symbol name := by
  cases r <;> simp [isSymbol]

/-- What is no symbol is refused before anything is evaluated. -/
theorem eval_assign_of_not_isSymbol {l r : Rule} (h : l.isSymbol = false) :
    eval fs (.binary .assign l r) w = (.error (.notAssignable l.render), w) := by
  cases l
  case symbol => cases h
  all_goals rfl

def Blames (fs : Registry σ) (w : World σ) (e : EvalError) (r : Rule) : Prop :=
  ∃ p, Part p r ∧ Raises fs w p e

theorem Raises.blames {r : Rule} (h : Raises fs w r e) : Blames fs w e r := ⟨r, .whole, h⟩

/-- What a rule blames is blamed by every rule that has its parts. -/
theorem Blames.of_parts {r s : Rule} (h : Blames fs w e s) (hparts : ∀ p, Part p s → Part p r) :
    Blames fs w e r := by
  obtain ⟨p, hp, hraises⟩ := h
  exact ⟨p, hparts p hp, hraises⟩

/-- Only an assignment has a left operand that is not evaluated. -/
theorem blames_binary {op : Operator} {l r : Rule}
    (hl : ∀ w, eval fs l w = (.error e, w') → Blames fs w' e l)
    (hr : ∀ w, eval fs r w = (.error e, w') → Blames fs w' e r)
    (h : eval fs (.binary op l r) w = (.error e, w')) : Blames fs w' e (.binary op l r) := by
  have left : op ≠ .assign → ∀ w, eval fs l w = (.error e, w') →
      Blames fs w' e (.binary op l r) :=
    fun hop w h => (hl w h).of_parts fun _ => .left hop
  have right : ∀ w, eval fs r w = (.error e, w') → Blames fs w' e (.binary op l r) :=
    fun w h => (hr w h).of_parts fun _ => .right
  cases op with
  | assign =>
    cases htarget : l.isSymbol with
    | false =>
      rw [eval_assign_of_not_isSymbol htarget] at h
      cases h
      exact (Raises.target htarget).blames
    | true =>
      obtain ⟨name, rfl⟩ := isSymbol_eq_true_iff.1 htarget
      rcases Outcome.andThen_eq_error h with h | ⟨v, w₁, -, h⟩
      · exact right w h
      · cases h
  | and =>
    rcases Outcome.andThen_eq_error h with h | ⟨v, w₁, -, h⟩
    · exact left nofun w h
    · split at h
      · exact right w₁ h
      · cases h
  | or =>
    rcases Outcome.andThen_eq_error h with h | ⟨v, w₁, -, h⟩
    · exact left nofun w h
    · split at h
      · cases h
      · exact right w₁ h
  | equal =>
    rcases both_eq_error h with ⟨w₁, h⟩ | ⟨w₁, h⟩ | ⟨a, b, h⟩
    · exact left nofun w₁ h
    · exact right w₁ h
    · cases h
  | comparison op =>
    rcases both_eq_error h with ⟨w₁, h⟩ | ⟨w₁, h⟩ | ⟨a, b, h⟩
    · exact left nofun w₁ h
    · exact right w₁ h
    · exact (Raises.comparison h).blames
  | arithmetic op =>
    rcases both_eq_error h with ⟨w₁, h⟩ | ⟨w₁, h⟩ | ⟨a, b, h⟩
    · exact left nofun w₁ h
    · exact right w₁ h
    · exact (Raises.arithmetic h).blames

/-- A call fails by itself or because an argument does. -/
theorem blames_call {name : String} {args : List Rule}
    (hargs : ∀ a ∈ args, ∀ w, eval fs a w = (.error e, w') → Blames fs w' e a)
    (h : eval fs (.call name args) w = (.error e, w')) : Blames fs w' e (.call name args) := by
  rcases Outcome.andThen_eq_error h with h | ⟨vs, w₁, -, h⟩
  · obtain ⟨a, ha, w₁, h⟩ := evalAll_eq_error h
    exact (hargs a ha w₁ h).of_parts fun _ => .argument ha
  · cases hf : fs.find? name with
    | some f => simp [hf] at h
    | none =>
      simp only [hf] at h
      cases h
      exact (Raises.function hf).blames

/-- An error of an evaluation comes from some part, in the world that the evaluation leaves. -/
theorem blames_of_eval {r : Rule} (h : eval fs r w = (.error e, w')) : Blames fs w' e r := by
  induction r using Rule.induction generalizing w with
  | block ss ih =>
    obtain ⟨s, hs, w₁, h⟩ := evalBlock_eq_error h
    exact (ih s hs h).of_parts fun _ => .statement hs
  | ifThen c t ihc iht =>
    rcases Outcome.andThen_eq_error h with h | ⟨v, w₁, -, h⟩
    · exact (ihc h).of_parts fun _ => .ifThenCondition
    · split at h
      · exact (iht h).of_parts fun _ => .ifThenBody
      · cases h
  | ifElse c t e ihc iht ihe =>
    rcases Outcome.andThen_eq_error h with h | ⟨v, w₁, -, h⟩
    · exact (ihc h).of_parts fun _ => .ifElseCondition
    · split at h
      · exact (iht h).of_parts fun _ => .ifElseBody
      · exact (ihe h).of_parts fun _ => .ifElseOther
  | binary op l r ihl ihr => exact blames_binary (fun _ => ihl) (fun _ => ihr) h
  | call name args ih => exact blames_call (fun a ha _ => ih a ha) h
  | text s => cases h
  | number n => cases h
  | symbol name =>
    rw [eval] at h
    split at h
    · cases h
    · next hnone =>
      cases h
      exact (Raises.variable hnone).blames

end Rule
end ChordRules
