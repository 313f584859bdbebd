import ChordRules.Proofs.Evaluation.Cause

/-! # What an evaluation comes to

A place in a rule is given by the nodes on the way down to it, each without the operand that the
way goes through. `Place.enter?` follows an evaluation down to a place: it gives the world in which
the evaluation comes there, if it does. From there on only the outcome at the place counts
(`Place.exists_resume`), and a place that the evaluation does not come to does not count at all
(`Place.enter?_eq_none_iff`). -/
namespace ChordRules

namespace Outcome

theorem andThen_pure (o : Outcome σ α) : (o.andThen fun a w => (.ok a, w)) = o := by
  obtain ⟨_ | a, w⟩ := o <;> rfl

/-- What is done after a success may be grouped in either way. -/
theorem andThen_assoc (o : Outcome σ α) (f : α → World σ → Outcome σ β)
    (g : β → World σ → Outcome σ γ) :
    (o.andThen f).andThen g = o.andThen fun a w => (f a w).andThen g := by
  obtain ⟨_ | a, w⟩ := o <;> rfl

/-- What goes on after an outcome matters only for the success it is. -/
theorem andThen_congr {o : Outcome σ α} {f g : α → World σ → Outcome σ β}
    (h : ∀ a w, o = (.ok a, w) → f a w = g a w) : o.andThen f = o.andThen g := by
  obtain ⟨_ | a, w⟩ := o
  · rfl
  · exact h a w rfl

def passed? (o : Outcome σ α) (test : α → Bool) : Option (World σ) :=
  match o with
  | (.ok a, w) => if test a then some w else none
  | (.error _, _) => none

theorem passed?_eq_some_iff {o : Outcome σ α} {test : α → Bool} {w : World σ} :
    o.passed? test = some w ↔ ∃ a, o = (.ok a, w) ∧ test a = true := by
  constructor
  · intro h
    obtain ⟨_ | a, v⟩ := o
    · cases h
    · rw [passed?] at h
      split at h
      · next htest =>
        cases h
        exact ⟨a, rfl, htest⟩
      · cases h
  · rintro ⟨a, rfl, htest⟩
    rw [passed?, if_pos htest]

theorem test_of_passed?_eq_none {o : Outcome σ α} {test : α → Bool}
    (h : o.passed? test = none) {a : α} {w : World σ} (ho : o = (.ok a, w)) :
    test a = false := by
  subst ho
  cases htest : test a with
  | false => rfl
  | true => simp [passed?, htest] at h

end Outcome

namespace Rule

variable {fs : Registry σ}

/-- A block goes on with the value that its first part has left. -/
theorem evalBlock_append (last : Value) (rs ss : List Rule) (w : World σ) :
    evalBlock fs last (rs ++ ss) w =
      (evalBlock fs last rs w).andThen fun v w => evalBlock fs v ss w := by
  induction rs generalizing last w with
  | nil => rw [List.nil_append, evalBlock, Outcome.andThen_ok]
  | cons r rs ih =>
    rw [List.cons_append, evalBlock, evalBlock, Outcome.andThen_assoc]
    simp only [ih]

/-- Values are found from the first rule to the last. -/
theorem evalAll_append (rs ss : List Rule) (w : World σ) :
    evalAll fs (rs ++ ss) w =
      (evalAll fs rs w).andThen fun us w =>
        (evalAll fs ss w).andThen fun vs w => (.ok (us ++ vs), w) := by
  induction rs generalizing w with
  | nil =>
    rw [List.nil_append, evalAll, Outcome.andThen_ok]
    exact (Outcome.andThen_pure _).symm
  | cons r rs ih =>
    rw [List.cons_append, evalAll, evalAll]
    simp only [ih, Outcome.andThen_assoc, Outcome.andThen_ok, List.cons_append]

/-- A call looks at its arguments only through their outcome. -/
theorem exists_eval_call (fs : Registry σ) (name : String) :
    ∃ f : List Value → World σ → Outcome σ Value,
      ∀ args w, eval fs (.call name args) w = (evalAll fs args w).andThen f :=
  ⟨_, fun args w => by rw [eval]⟩

/-- A node without one of its operands. What is assigned to is no operand. -/
inductive Frame where
  | statement (before after : List Rule)
  | ifThenCondition (body : Rule)
  | ifThenBody (condition : Rule)
  | ifElseCondition (body other : Rule)
  | ifElseBody (condition other : Rule)
  | ifElseOther (condition body : Rule)
  | left (op : Operator) (hop : op ≠ .assign) (right : Rule)
  | right (op : Operator) (left : Rule)
  | argument (name : String) (before after : List Rule)

namespace Frame

def fill : Frame → Rule → Rule
  | statement before after, p => .block (before ++ p :: after)
  | ifThenCondition t, p => .ifThen p t
  | ifThenBody c, p => .ifThen c p
  | ifElseCondition t e, p => .ifElse p t e
  | ifElseBody c e, p => .ifElse c p e
  | ifElseOther c t, p => .ifElse c t p
  | left op _ r, p => .binary op p r
  | right op l, p => .binary op l p
  | argument name before after, p => .call name (before ++ p :: after)

/-- The world in which an evaluation of the node comes to the operand, if it does. -/
def enter? (fs : Registry σ) : Frame → World σ → Option (World σ)
  | statement before _, w => (evalBlock fs .nothing before w).passed? fun _ => true
  | ifThenCondition _, w => some w
  | ifThenBody c, w => (eval fs c w).passed? fun v => v.isTrue
  | ifElseCondition _ _, w => some w
  | ifElseBody c _, w => (eval fs c w).passed? fun v => v.isTrue
  | ifElseOther c _, w => (eval fs c w).passed? fun v => !v.isTrue
  | left _ _ _, w => some w
  | right op l, w =>
    match op with
    | .assign => if l.isSymbol then some w else none
    | .and => (eval fs l w).passed? fun v => v.isTrue
    | .or => (eval fs l w).passed? fun v => !v.isTrue
    | .equal | .comparison _ | .arithmetic _ => (eval fs l w).passed? fun _ => true
  | argument _ before _, w => (evalAll fs before w).passed? fun _ => true

/-- Once the operand is reached, the node is its outcome and something that goes on from there.
Nothing goes on where the operand decides the outcome. -/
theorem exists_resume {f : Frame} {w u : World σ} (h : f.enter? fs w = some u) :
    ∃ k : Value → World σ → Outcome σ Value,
      ∀ p, eval fs (f.fill p) w = (eval fs p u).andThen k := by
  have decides : ∀ q : Rule → Rule, (∀ p, eval fs (q p) w = eval fs p u) →
      ∃ k : Value → World σ → Outcome σ Value,
        ∀ p, eval fs (q p) w = (eval fs p u).andThen k :=
    fun q hq => ⟨fun v w => (.ok v, w), fun p => by rw [hq, Outcome.andThen_pure]⟩
  cases f with
  | statement before after =>
    obtain ⟨v, hbefore, -⟩ := Outcome.passed?_eq_some_iff.1 h
    refine ⟨fun v u => evalBlock fs v after u, fun p => ?_⟩
    rw [fill, eval, evalBlock_append, hbefore, Outcome.andThen_ok, evalBlock]
  | ifThenCondition t =>
    cases h
    exact ⟨_, fun p => by rw [fill, eval]⟩
  | ifThenBody c =>
    obtain ⟨v, hc, hv⟩ := Outcome.passed?_eq_some_iff.1 h
    exact decides _ fun p => by rw [fill, eval, hc, Outcome.andThen_ok, if_pos hv]
  | ifElseCondition t e =>
    cases h
    exact ⟨_, fun p => by rw [fill, eval]⟩
  | ifElseBody c e =>
    obtain ⟨v, hc, hv⟩ := Outcome.passed?_eq_some_iff.1 h
    exact decides _ fun p => by rw [fill, eval, hc, Outcome.andThen_ok, if_pos hv]
  | ifElseOther c t =>
    obtain ⟨v, hc, hv⟩ := Outcome.passed?_eq_some_iff.1 h
    rw [Bool.not_eq_true'] at hv
    exact decides _ fun p => by simp [fill, eval, hc, hv]
  | left op hop r =>
    cases h
    cases op with
    | assign => exact absurd rfl hop
    | and | or | equal | comparison | arithmetic => exact ⟨_, fun p => by rw [fill, eval]⟩
  | right op l =>
    cases op with
    | assign =>
      rw [enter?] at h
      split at h
      · next hl =>
        cases h
        obtain ⟨name, rfl⟩ := isSymbol_eq_true_iff.1 hl
        exact ⟨_, fun p => by rw [fill, eval]⟩
      · cases h
    | and =>
      obtain ⟨v, hl, hv⟩ := Outcome.passed?_eq_some_iff.1 h
      exact decides _ fun p => by rw [fill, eval, hl, Outcome.andThen_ok, if_pos hv]
    | or =>
      obtain ⟨v, hl, hv⟩ := Outcome.passed?_eq_some_iff.1 h
      rw [Bool.not_eq_true'] at hv
      exact decides _ fun p => by simp [fill, eval, hl, hv]
    | equal | comparison | arithmetic =>
      obtain ⟨v, hl, -⟩ := Outcome.passed?_eq_some_iff.1 h
      exact ⟨_, fun p => by rw [fill, eval, hl, Outcome.andThen_ok]⟩
  | argument name before after =>
    obtain ⟨vs, hbefore, -⟩ := Outcome.passed?_eq_some_iff.1 h
    obtain ⟨k, hk⟩ := exists_eval_call fs name
    refine ⟨fun v u => (evalAll fs after u).andThen fun us u => k (vs ++ v :: us) u, fun p => ?_⟩
    rw [fill, hk, evalAll_append, hbefore, Outcome.andThen_ok, evalAll]
    simp only [Outcome.andThen_assoc, Outcome.andThen_ok]

/-- An operand that is not reached does not matter. -/
theorem eval_fill_of_enter?_eq_none {f : Frame} {w : World σ} (h : f.enter? fs w = none)
    (p q : Rule) : eval fs (f.fill p) w = eval fs (f.fill q) w := by
  cases f with
  | statement before after =>
    rw [fill, fill, eval, eval, evalBlock_append, evalBlock_append]
    refine Outcome.andThen_congr fun v u hv => ?_
    cases Outcome.test_of_passed?_eq_none h hv
  | ifThenCondition | ifElseCondition | left => cases h
  | ifThenBody c | ifElseBody c | ifElseOther c =>
    rw [fill, fill, eval, eval]
    refine Outcome.andThen_congr fun v u hv => ?_
    have htest := Outcome.test_of_passed?_eq_none h hv
    simp_all
  | right op l =>
    cases op with
    | assign =>
      rw [enter?] at h
      split at h
      · cases h
      · next hl =>
        rw [Bool.not_eq_true] at hl
        rw [fill, fill, eval_assign_of_not_isSymbol hl, eval_assign_of_not_isSymbol hl]
    | and | or | equal | comparison | arithmetic =>
      rw [fill, fill, eval, eval]
      refine Outcome.andThen_congr fun v u hv => ?_
      have htest := Outcome.test_of_passed?_eq_none h hv
      simp_all
  | argument name before after =>
    obtain ⟨k, hk⟩ := exists_eval_call fs name
    rw [fill, fill, hk, hk, evalAll_append, evalAll_append, Outcome.andThen_assoc,
      Outcome.andThen_assoc]
    refine Outcome.andThen_congr fun vs u hvs => ?_
    cases Outcome.test_of_passed?_eq_none h hvs

/-- What stands below a frame is a part of the filled frame. -/
theorem part_fill {p q : Rule} (f : Frame) (h : Part p q) : Part p (f.fill q) := by
  cases f with
  | statement => exact .statement (List.mem_append_right _ List.mem_cons_self) h
  | ifThenCondition => exact .ifThenCondition h
  | ifThenBody => exact .ifThenBody h
  | ifElseCondition => exact .ifElseCondition h
  | ifElseBody => exact .ifElseBody h
  | ifElseOther => exact .ifElseOther h
  | left _ hop _ => exact .left hop h
  | right => exact .right h
  | argument => exact .argument (List.mem_append_right _ List.mem_cons_self) h

end Frame

/-- A place in a rule: the nodes on the way down to it, the outermost first. -/
abbrev Place := List Frame

namespace Place

def fill (place : Place) (p : Rule) : Rule := place.foldr Frame.fill p

def enter? (fs : Registry σ) (place : Place) (w : World σ) : Option (World σ) :=
  place.foldlM (fun w f => f.enter? fs w) w

@[simp] theorem fill_nil (p : Rule) : fill [] p = p := rfl
@[simp] theorem fill_cons (f : Frame) (place : Place) (p : Rule) :
    fill (f :: place) p = f.fill (fill place p) := rfl

@[simp] theorem enter?_nil (w : World σ) : enter? fs [] w = some w := rfl
@[simp] theorem enter?_cons (f : Frame) (place : Place) (w : World σ) :
    enter? fs (f :: place) w = (f.enter? fs w).bind (enter? fs place) := rfl

/-- The parts of a rule are what stands at its places. -/
theorem part_iff_exists_fill {p r : Rule} : Part p r ↔ ∃ place : Place, place.fill p = r := by
  constructor
  · intro h
    have around : ∀ (f : Frame) (q : Rule), (∃ place : Place, place.fill p = q) →
        ∃ place : Place, place.fill p = f.fill q := by
      rintro f q ⟨place, rfl⟩
      exact ⟨f :: place, rfl⟩
    induction h with
    | whole => exact ⟨[], rfl⟩
    | statement hs _ ih =>
      obtain ⟨before, after, rfl⟩ := List.append_of_mem hs
      exact around (.statement before after) _ ih
    | ifThenCondition _ ih => exact around (.ifThenCondition _) _ ih
    | ifThenBody _ ih => exact around (.ifThenBody _) _ ih
    | ifElseCondition _ ih => exact around (.ifElseCondition _ _) _ ih
    | ifElseBody _ ih => exact around (.ifElseBody _ _) _ ih
    | ifElseOther _ ih => exact around (.ifElseOther _ _) _ ih
    | left hop _ ih => exact around (.left _ hop _) _ ih
    | right _ ih => exact around (.right _ _) _ ih
    | argument ha _ ih =>
      obtain ⟨before, after, rfl⟩ := List.append_of_mem ha
      exact around (.argument _ before after) _ ih
  · rintro ⟨place, rfl⟩
    induction place with
    | nil => exact .whole
    | cons f place ih => exact f.part_fill ih

/-- Once the place is reached, the rule is the outcome there and something that goes on from it. -/
theorem exists_resume {place : Place} {w u : World σ} (h : place.enter? fs w = some u) :
    ∃ k : Value → World σ → Outcome σ Value,
      ∀ p, eval fs (place.fill p) w = (eval fs p u).andThen k := by
  induction place generalizing w with
  | nil =>
    cases h
    exact ⟨fun v w => (.ok v, w), fun p => (Outcome.andThen_pure _).symm⟩
  | cons f place ih =>
    obtain ⟨v, hf, hplace⟩ := Option.bind_eq_some_iff.1 h
    obtain ⟨k, hk⟩ := ih hplace
    obtain ⟨l, hl⟩ := Frame.exists_resume hf
    refine ⟨fun a w => (k a w).andThen l, fun p => ?_⟩
    rw [fill_cons, hl, hk, Outcome.andThen_assoc]

/-- An error at a place that is reached is the outcome of the whole. -/
theorem eval_fill_of_error {place : Place} {w u u' : World σ} {p : Rule} {e : EvalError}
    (h : place.enter? fs w = some u) (hp : eval fs p u = (.error e, u')) :
    eval fs (place.fill p) w = (.error e, u') := by
  obtain ⟨k, hk⟩ := exists_resume h
  rw [hk, hp, Outcome.andThen_error]

theorem eval_fill_of_enter?_eq_none {place : Place} {w : World σ}
    (h : place.enter? fs w = none) (p q : Rule) :
    eval fs (place.fill p) w = eval fs (place.fill q) w := by
  induction place generalizing w with
  | nil => cases h
  | cons f place ih =>
    rw [enter?_cons, Option.bind_eq_none_iff] at h
    cases hf : f.enter? fs w with
    | none => exact Frame.eval_fill_of_enter?_eq_none hf _ _
    | some u =>
      obtain ⟨k, hk⟩ := Frame.exists_resume hf
      rw [fill_cons, fill_cons, hk, hk, ih (h u hf)]

/-- An evaluation does not come to a place exactly if it is all the same what stands there: with
any other rule in that place the value or error, the variables, the host, the calls with their
arguments and the log remain as they are. -/
theorem enter?_eq_none_iff (fs : Registry σ) (place : Place) (w : World σ) :
    place.enter? fs w = none ↔
      ∀ p q, (place.fill p).eval fs w = (place.fill q).eval fs w := by
  constructor
  · exact eval_fill_of_enter?_eq_none
  · intro h
    cases hplace : place.enter? fs w with
    | none => rfl
    | some u =>
      have hfail : ∀ n, eval fs (.binary .assign (.text n) (.text n)) u =
          (.error (.notAssignable (Rule.render (.text n))), u) :=
        fun n => eval_assign_of_not_isSymbol rfl
      have heq := h (.binary .assign (.text "a") (.text "a"))
        (.binary .assign (.text "b") (.text "b"))
      rw [eval_fill_of_error hplace (hfail "a"), eval_fill_of_error hplace (hfail "b")] at heq
      simp [Rule.render] at heq

/-- What stands behind `0 and` is not reached. -/
example : enter? (Registry.empty : Registry Unit) [.right .and (.number 0)] (.ofHost ()) = none :=
  rfl

end Place
end Rule
end ChordRules
