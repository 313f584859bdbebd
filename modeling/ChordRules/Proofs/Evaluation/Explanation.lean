import ChordRules.Proofs.Evaluation.Variables

/-! # What evaluation errors tell

An error names what is wrong with a rule: a variable that was never set, a function that is not
offered, two kinds that an operator does not accept, a divisor of zero, or something that cannot be
assigned to. `AccountsFor` says what must be found in the rule and its worlds for an error to be
justified, and every error of an evaluation is (`eval_accounts_for_errors`). -/
namespace ChordRules.Rule

/-- What a rule and the worlds before and after its evaluation must be like for an error to be
justified. -/
def AccountsFor (fs : Registry σ) (r : Rule) (before after : World σ) : EvalError → Prop
  | .unknownVariable x =>
    Part (.symbol x) r ∧ before.scope.contains x = false ∧ after.scope.contains x = false
  | .unknownFunction name => (∃ args, Part (.call name args) r) ∧ fs.contains name = false
  | .typeMismatch op k l => (∃ a b, Part (.binary op a b) r) ∧ op.Refuses k l
  | .divisionByZero => ∃ a b, Part (.binary (.arithmetic .divide) a b) r
  | .notAssignable target =>
    ∃ a b, Part (.binary .assign a b) r ∧ a.isSymbol = false ∧ a.render = target

variable {fs : Registry σ} {r : Rule} {w w' : World σ}

/-- What is not set in the end was not set at the beginning. -/
theorem not_contains_of_eval {x : String} (h : (r.eval fs w).2.scope.contains x = false) :
    w.scope.contains x = false := by
  rw [← Bool.not_eq_true] at h ⊢
  exact fun hw => h (contains_eval r hw)

/-- Every error of an evaluation is justified. -/
theorem accountsFor_of_eval {e : EvalError} (h : r.eval fs w = (.error e, w')) :
    r.AccountsFor fs w w' e := by
  obtain ⟨p, hp, hraises⟩ := blames_of_eval h
  rcases hraises with @⟨x, hx⟩ | @⟨name, args, hname⟩ | happly | happly | hl
  · have hafter : w'.scope.contains x = false := Scope.contains_eq_false_iff.2 hx
    have hbefore : w.scope.contains x = false := not_contains_of_eval (by rw [h, hafter])
    exact ⟨hp, hbefore, hafter⟩
  · have hcontains : fs.contains name = false := by
      rw [Registry.contains, hname, Option.isSome_none]
    exact ⟨⟨args, hp⟩, hcontains⟩
  · rcases Arithmetic.apply_eq_error_iff.1 happly with ⟨hrefuses, rfl⟩ | ⟨rfl, -, -, rfl⟩
    · exact ⟨⟨_, _, hp⟩, hrefuses⟩
    · exact ⟨_, _, hp⟩
  · obtain ⟨hrefuses, rfl⟩ := Comparison.apply_eq_error_iff.1 happly
    exact ⟨⟨_, _, hp⟩, hrefuses⟩
  · exact ⟨_, _, hp, hl, rfl⟩

/-- A variable that is set is never unknown, whatever is assigned to meanwhile. -/
theorem eval_ne_unknownVariable (r : Rule) {x : String} (h : w.scope.contains x = true) :
    (r.eval fs w).1 ≠ .error (.unknownVariable x) := by
  intro herror
  obtain ⟨-, hbefore, -⟩ := accountsFor_of_eval (Prod.ext herror rfl)
  rw [h] at hbefore
  cases hbefore

/-- Every error of an evaluation is justified: an unknown variable is read in the rule and is set
neither before nor after, an unknown function is called there and not offered, and whatever else
fails is some operator of the rule, on kinds that it refuses or on what it cannot assign to. So
where all variables are set and all functions offered, neither is ever unknown. -/
theorem eval_accounts_for_errors (fs : Registry σ) (r : Rule) (w : World σ) :
    (∀ e w', r.eval fs w = (.error e, w') → r.AccountsFor fs w w' e) ∧
    ((∀ x, Part (.symbol x) r → w.scope.contains x = true) →
      ∀ x, (r.eval fs w).1 ≠ .error (.unknownVariable x)) ∧
    ((∀ name args, Part (.call name args) r → fs.contains name = true) →
      ∀ name, (r.eval fs w).1 ≠ .error (.unknownFunction name)) := by
  refine ⟨fun e w' h => accountsFor_of_eval h, fun hset x herror => ?_,
    fun hoffered name herror => ?_⟩
  · obtain ⟨hpart, -, -⟩ := accountsFor_of_eval (Prod.ext herror rfl)
    exact eval_ne_unknownVariable r (hset x hpart) herror
  · obtain ⟨⟨args, hpart⟩, hcontains⟩ := accountsFor_of_eval (Prod.ext herror rfl)
    rw [hoffered name args hpart] at hcontains
    cases hcontains

/-- So it is where a level is raised and then divided by zero on the way to a report: everything
is set and offered, and what fails is the division that the rule contains. -/
theorem eval_accounts_for_errors_division :
    ∃ (fs : Registry Unit) (w w' : World Unit) (r : Rule),
      r = .block [.binary .assign (.symbol "level")
          (.binary (.arithmetic .add) (.symbol "level") (.number 1)),
        .call "report" [.binary (.arithmetic .divide) (.symbol "level") (.symbol "zero")]] ∧
      r.eval fs w = (.error .divisionByZero, w') ∧
      w'.scope.get? "level" = some (.number 4) ∧ w'.calls = [] ∧
      (∃ a b, Part (.binary (.arithmetic .divide) a b) r) ∧
      (∀ x, (r.eval fs w).1 ≠ .error (.unknownVariable x)) ∧
      (∀ name, (r.eval fs w).1 ≠ .error (.unknownFunction name)) := by
  let fs : Registry Unit := ⟨[("report", fun _ n => ⟨.nothing, n, []⟩)]⟩
  let w : World Unit := ⟨⟨[("level", .number 3), ("zero", .number 0)]⟩, (), [], []⟩
  let w' : World Unit := w.assign "level" (.number 4)
  let r : Rule := .block [.binary .assign (.symbol "level")
      (.binary (.arithmetic .add) (.symbol "level") (.number 1)),
    .call "report" [.binary (.arithmetic .divide) (.symbol "level") (.symbol "zero")]]
  have herror : r.eval fs w = (.error .divisionByZero, w') := rfl
  have hset : ∀ x, Part (.symbol x) r → w.scope.contains x = true := by
    intro x hx
    have hx' : x = "level" ∨ x = "zero" := by
      simpa [r, subtrees, subtreesAll, or_comm, or_assoc] using hx.mem_subtrees
    rcases hx' with rfl | rfl <;> rfl
  have hoffered : ∀ name args, Part (.call name args) r → fs.contains name = true := by
    intro name args hcall
    obtain ⟨rfl, -⟩ : name = "report" ∧
        args = [.binary (.arithmetic .divide) (.symbol "level") (.symbol "zero")] := by
      simpa [r, subtrees, subtreesAll] using hcall.mem_subtrees
    rfl
  obtain ⟨hcauses, hvariables, hfunctions⟩ := eval_accounts_for_errors fs r w
  exact ⟨fs, w, w', r, rfl, herror, rfl, rfl, hcauses _ _ herror, hvariables hset,
    hfunctions hoffered⟩

end ChordRules.Rule
