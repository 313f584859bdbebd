import ChordRules.Proofs.Evaluation.Reach

/-! # Variables under evaluation

Evaluations of one rule in two related worlds give the same result and related worlds, if the
relation respects what a rule can do by itself: read a variable, set one, and call a function
(`Respects.carries`). Two consequences are drawn. A rule changes no variable that it does not assign
to (`eval_changes_only_assigned`), and variables that it does not mention are all the same to it
(`eval_agreeOn`). -/
namespace ChordRules

/-- Two outcomes give the same result and leave related worlds. -/
def Outcome.Related (R : World σ → World σ → Prop) (o₁ o₂ : Outcome σ α) : Prop :=
  o₁.1 = o₂.1 ∧ R o₁.2 o₂.2

namespace Outcome.Related

variable {R : World σ → World σ → Prop}

/-- What is the same in both worlds and leaves them as they are. -/
theorem same {u v : World σ} (r : Except EvalError α) (h : R u v) :
    Outcome.Related R (r, u) (r, v) := ⟨rfl, h⟩

/-- Related outcomes go on to related outcomes. -/
theorem andThen {o₁ o₂ : Outcome σ α} {f g : α → World σ → Outcome σ β}
    (h : o₁.Related R o₂) (hfg : ∀ a u v, R u v → (f a u).Related R (g a v)) :
    (o₁.andThen f).Related R (o₂.andThen g) := by
  obtain ⟨r₁, u⟩ := o₁
  obtain ⟨r₂, v⟩ := o₂
  obtain ⟨rfl, huv⟩ := h
  cases r₁ with
  | error e => exact ⟨rfl, huv⟩
  | ok a => exact hfg a u v huv

end Outcome.Related

namespace Rule

def Assigns (r : Rule) (x : String) : Prop := ∃ e, binary .assign (symbol x) e ∈ r.subtrees

/-- The variable occurs in the rule, be it only assigned to. -/
def Mentions (r : Rule) (x : String) : Prop := symbol x ∈ r.subtrees

/-- What is assigned to is mentioned. -/
theorem Assigns.mentions {r : Rule} {x : String} (h : r.Assigns x) : r.Mentions x := by
  obtain ⟨e, he⟩ := h
  have hx : symbol x ∈ (binary .assign (symbol x) e).subtrees :=
    mem_subtrees_of_child List.mem_cons_self (self_mem_subtrees _)
  exact mem_subtrees_trans hx he

theorem Assigns.of_child {r c : Rule} {x : String} (hc : c ∈ r.children) (h : c.Assigns x) :
    r.Assigns x := by
  obtain ⟨e, he⟩ := h
  exact ⟨e, mem_subtrees_of_child hc he⟩

/-- Nothing that the rule does to two worlds by itself tells related ones apart. -/
structure Respects (R : World σ → World σ → Prop) (r : Rule) : Prop where
  read {x : String} (hx : r.Mentions x) {u v : World σ} (h : R u v) :
    u.scope.get? x = v.scope.get? x
  assign {x : String} (hx : r.Assigns x) (a : Value) {u v : World σ} (h : R u v) :
    R (u.assign x a) (v.assign x a)
  call (name : String) (f : HostFunction σ) (vs : List Value) {u v : World σ} (h : R u v) :
    (u.call name f vs).1 = (v.call name f vs).1 ∧ R (u.call name f vs).2 (v.call name f vs).2

section Respects

variable {fs : Registry σ} {R : World σ → World σ → Prop}

/-- What a rule respects, the rules below it respect. -/
theorem Respects.child {r c : Rule} (h : r.Respects R) (hc : c ∈ r.children) : c.Respects R where
  read hx := h.read (mem_subtrees_of_child hc hx)
  assign hx := h.assign (hx.of_child hc)
  call := h.call

def Carries (fs : Registry σ) (R : World σ → World σ → Prop) (r : Rule) : Prop :=
  ∀ ⦃u v : World σ⦄, R u v → (r.eval fs u).Related R (r.eval fs v)

/-- A block leaves worlds as related as its rules do. -/
theorem related_evalBlock {ss : List Rule} (h : ∀ s ∈ ss, s.Carries fs R) (last : Value)
    {u v : World σ} (huv : R u v) :
    (evalBlock fs last ss u).Related R (evalBlock fs last ss v) := by
  induction ss generalizing last u v with
  | nil =>
    rw [evalBlock, evalBlock]
    exact .same _ huv
  | cons s ss ih =>
    obtain ⟨hs, hss⟩ := List.forall_mem_cons.1 h
    rw [evalBlock, evalBlock]
    exact (hs huv).andThen fun a _ _ => ih hss a

theorem related_evalAll {rs : List Rule} (h : ∀ r ∈ rs, r.Carries fs R) {u v : World σ}
    (huv : R u v) : (evalAll fs rs u).Related R (evalAll fs rs v) := by
  induction rs generalizing u v with
  | nil =>
    rw [evalAll, evalAll]
    exact .same _ huv
  | cons r rs ih =>
    obtain ⟨hr, hrs⟩ := List.forall_mem_cons.1 h
    rw [evalAll, evalAll]
    exact (hr huv).andThen fun _ _ _ h => (ih hrs h).andThen fun _ _ _ => .same _

/-- Operands one after the other, whatever is made of their values. -/
theorem Carries.related_both {l r : Rule} (hl : l.Carries fs R) (hr : r.Carries fs R)
    (f : Value → Value → Except EvalError Value) {u v : World σ} (huv : R u v) :
    Outcome.Related R
      ((eval fs l u).andThen fun a w => (eval fs r w).andThen fun b w => (f a b, w))
      ((eval fs l v).andThen fun a w => (eval fs r w).andThen fun b w => (f a b, w)) :=
  (hl huv).andThen fun _ _ _ h => (hr h).andThen fun _ _ _ => .same _

/-- A condition, and one of two ways to go on. -/
theorem Carries.related_branch {c : Rule} (hc : c.Carries fs R)
    {f g : Value → World σ → Outcome σ Value}
    (hf : ∀ a u v, R u v → (f a u).Related R (f a v))
    (hg : ∀ a u v, R u v → (g a u).Related R (g a v)) {u v : World σ} (huv : R u v) :
    Outcome.Related R ((eval fs c u).andThen fun a w => if a.isTrue then f a w else g a w)
      ((eval fs c v).andThen fun a w => if a.isTrue then f a w else g a w) := by
  refine (hc huv).andThen fun a u v huv => ?_
  split
  · exact hf a u v huv
  · exact hg a u v huv

/-- An operation carries a relation if its operands do. -/
theorem Respects.carries_binary {op : Operator} {l r : Rule} (h : (binary op l r).Respects R)
    (hl : l.Carries fs R) (hr : r.Carries fs R) : (binary op l r).Carries fs R := by
  intro u v huv
  cases op with
  | assign =>
    cases htarget : l.isSymbol with
    | false =>
      rw [eval_assign_of_not_isSymbol htarget, eval_assign_of_not_isSymbol htarget]
      exact .same _ huv
    | true =>
      obtain ⟨x, rfl⟩ := isSymbol_eq_true_iff.1 htarget
      rw [eval, eval]
      exact (hr huv).andThen fun a _ _ hw => ⟨rfl, h.assign ⟨r, self_mem_subtrees _⟩ a hw⟩
  | and =>
    rw [eval, eval]
    exact hl.related_branch (fun _ => hr) (fun a _ _ => .same (.ok a)) huv
  | or =>
    rw [eval, eval]
    exact hl.related_branch (fun a _ _ => .same (.ok a)) (fun _ => hr) huv
  | equal =>
    rw [eval, eval]
    exact hl.related_both hr (fun a b => .ok (.boolean (a == b))) huv
  | comparison op =>
    rw [eval, eval]
    exact hl.related_both hr op.apply huv
  | arithmetic op =>
    rw [eval, eval]
    exact hl.related_both hr op.apply huv

theorem Respects.carries_call {name : String} {args : List Rule}
    (h : (Rule.call name args).Respects R) (hargs : ∀ a ∈ args, a.Carries fs R) :
    (Rule.call name args).Carries fs R := by
  intro u v huv
  rw [eval, eval]
  refine (related_evalAll hargs huv).andThen fun vs u v huv => ?_
  cases fs.find? name with
  | none => exact .same _ huv
  | some f =>
    obtain ⟨hvalue, hworld⟩ := Respects.call h name f vs huv
    exact ⟨congrArg Except.ok hvalue, hworld⟩

/-- Related worlds stay related under evaluation, and the results are the same. -/
theorem Respects.carries {r : Rule} (h : r.Respects R) : r.Carries fs R := by
  induction r using Rule.induction with
  | block ss ih =>
    intro u v huv
    rw [eval, eval]
    exact related_evalBlock (fun s hs => ih s hs (h.child hs)) _ huv
  | ifThen c t ihc iht =>
    have hc : c.Carries fs R := ihc (h.child (by simp [children]))
    have ht : t.Carries fs R := iht (h.child (by simp [children]))
    intro u v huv
    rw [eval, eval]
    exact hc.related_branch (fun _ => ht) (fun _ _ _ => .same _) huv
  | ifElse c t e ihc iht ihe =>
    have hc : c.Carries fs R := ihc (h.child (by simp [children]))
    have ht : t.Carries fs R := iht (h.child (by simp [children]))
    have he : e.Carries fs R := ihe (h.child (by simp [children]))
    intro u v huv
    rw [eval, eval]
    exact hc.related_branch (fun _ => ht) (fun _ => he) huv
  | binary op l r ihl ihr =>
    have hl : l.Carries fs R := ihl (h.child (by simp [children]))
    have hr : r.Carries fs R := ihr (h.child (by simp [children]))
    exact h.carries_binary hl hr
  | call name args ih => exact h.carries_call fun a ha => ih a ha (h.child ha)
  | text s =>
    intro u v huv
    rw [eval, eval]
    exact .same _ huv
  | number n =>
    intro u v huv
    rw [eval, eval]
    exact .same _ huv
  | symbol x =>
    intro u v huv
    rw [eval, eval, h.read (self_mem_subtrees _) huv]
    cases v.scope.get? x with
    | some a => exact .same _ huv
    | none => exact .same _ huv

end Respects

/-- What calls and the rule's own assignments preserve, its evaluation preserves. -/
theorem eval_preserves {fs : Registry σ} {P : World σ → Prop} {r : Rule}
    (assign : ∀ {x : String}, r.Assigns x → ∀ a {w}, P w → P (w.assign x a))
    (call : ∀ name f vs {w}, P w → P (w.call name f vs).2) {w : World σ} (hw : P w) :
    P (r.eval fs w).2 := by
  have hdiagonal : r.Respects fun u v => u = v ∧ P u :=
    { read := by
        rintro x _ u v ⟨rfl, -⟩
        rfl
      assign := by
        rintro x hx a u v ⟨rfl, hu⟩
        exact ⟨rfl, assign hx a hu⟩
      call := by
        rintro name f vs u v ⟨rfl, hu⟩
        exact ⟨rfl, rfl, call name f vs hu⟩ }
  exact (hdiagonal.carries ⟨rfl, hw⟩).2.2

/-- A variable that is nowhere assigned to is as it was. -/
theorem get?_eval_of_not_assigns {fs : Registry σ} {r : Rule} {x : String}
    (h : ¬ r.Assigns x) (w : World σ) :
    (r.eval fs w).2.scope.get? x = w.scope.get? x := by
  refine eval_preserves (P := fun u => u.scope.get? x = w.scope.get? x) ?_ ?_ rfl
  · intro y hy a u hu
    have hne : x ≠ y := by
      rintro rfl
      exact h hy
    rw [World.scope_assign, Scope.get?_set_of_ne _ _ hne, hu]
  · intro name f vs u hu
    rw [World.scope_call, hu]

/-- A variable once set stays set. -/
theorem contains_eval {fs : Registry σ} (r : Rule) {x : String} {w : World σ}
    (h : w.scope.contains x = true) : (r.eval fs w).2.scope.contains x = true := by
  refine eval_preserves (P := fun u => u.scope.contains x = true) ?_ ?_ h
  · intro y _ a u hu
    rw [World.scope_assign, Scope.contains, Scope.get?_set]
    split
    · rfl
    · exact hu
  · intro name f vs u hu
    exact hu

/-- An assignment fails only where what it assigns fails, and it changes nothing then. -/
theorem eval_assign_eq_error {fs : Registry σ} {x : String} {e : Rule} {u u' : World σ}
    {err : EvalError} (h : (binary .assign (symbol x) e).eval fs u = (.error err, u')) :
    e.eval fs u = (.error err, u') := by
  rw [eval] at h
  rcases Outcome.andThen_eq_error h with h | ⟨v, w, -, h⟩
  · exact h
  · cases h

/-- Evaluation changes variables by the assignments in the rule only, whether it succeeds or
fails: a variable that none of them assigns to stays as it is, one that is set stays set, and
where an assignment fails that the evaluation comes to, all ends as the evaluation of what was to
be assigned ended. -/
theorem eval_changes_only_assigned (fs : Registry σ) (r : Rule) (w : World σ) :
    (∀ x, ¬ r.Assigns x → (r.eval fs w).2.scope.get? x = w.scope.get? x) ∧
    (∀ x, w.scope.contains x = true → (r.eval fs w).2.scope.contains x = true) ∧
    (∀ (place : Place) (x : String) (e : Rule) (u : World σ) (err : EvalError),
      place.fill (.binary .assign (.symbol x) e) = r → place.enter? fs w = some u →
      ((Rule.binary .assign (.symbol x) e).eval fs u).1 = .error err →
      r.eval fs w = e.eval fs u) := by
  refine ⟨fun x hx => get?_eval_of_not_assigns hx w, fun x => contains_eval r, ?_⟩
  rintro place x e u err rfl hplace hfails
  obtain ⟨u', hassign⟩ : ∃ u', (Rule.binary .assign (.symbol x) e).eval fs u = (.error err, u') :=
    ⟨_, Prod.ext hfails rfl⟩
  rw [Place.eval_fill_of_error hplace hassign, eval_assign_eq_error hassign]

/-- So it is where the quotient that `level` is set to does not exist: the assignment before it
counts, the one behind it does not. -/
theorem eval_changes_only_assigned_quotient :
    ∃ (fs : Registry Unit) (w u : World Unit) (place : Place) (e : Rule),
      place = [.statement [.binary .assign (.symbol "zero") (.number 0)]
        [.binary .assign (.symbol "lamp") (.number 1)]] ∧
      place.enter? fs w = some u ∧ e.eval fs u = (.error .divisionByZero, u) ∧
      (place.fill (.binary .assign (.symbol "level") e)).eval fs w = e.eval fs u ∧
      u.scope.get? "zero" = some (.number 0) ∧ u.scope.get? "level" = w.scope.get? "level" ∧
      u.scope.get? "lamp" = none := by
  let fs : Registry Unit := .empty
  let w : World Unit := ⟨⟨[("level", .number 7)]⟩, (), [], []⟩
  let u : World Unit := w.assign "zero" (.number 0)
  let place : Place := [.statement [.binary .assign (.symbol "zero") (.number 0)]
    [.binary .assign (.symbol "lamp") (.number 1)]]
  let e : Rule := .binary (.arithmetic .divide) (.symbol "level") (.symbol "zero")
  have hplace : place.enter? fs w = some u := rfl
  have hquotient : e.eval fs u = (.error .divisionByZero, u) := rfl
  have hwhole := (eval_changes_only_assigned fs (place.fill (.binary .assign (.symbol "level") e))
    w).2.2 place "level" e u .divisionByZero rfl hplace rfl
  exact ⟨fs, w, u, place, e, rfl, hplace, hquotient, hwhole, rfl, rfl, rfl⟩

end Rule

structure World.AgreeOn (names : String → Prop) (u v : World σ) : Prop where
  host : u.host = v.host
  calls : u.calls = v.calls
  log : u.log = v.log
  get? (x : String) (hx : names x) : u.scope.get? x = v.scope.get? x

namespace Rule

/-- A rule cannot tell worlds apart by variables that it does not mention. -/
theorem respects_agreeOn {names : String → Prop} {r : Rule} (h : ∀ x, r.Mentions x → names x) :
    r.Respects (World.AgreeOn (σ := σ) names) where
  read hx _ _ hw := hw.get? _ (h _ hx)
  assign {y} _ a u v hw :=
    { host := hw.host
      calls := hw.calls
      log := hw.log
      get? := by
        intro x hx
        rw [World.scope_assign, World.scope_assign, Scope.get?_set, Scope.get?_set]
        split
        · rfl
        · exact hw.get? x hx }
  call name f vs u v hw := by
    obtain ⟨hhost, hcalls, hlog, hget⟩ := hw
    constructor
    · simp only [World.call, hhost]
    · constructor
      · simp only [World.call, hhost]
      · simp only [World.call, hcalls]
      · simp only [World.call, hhost, hlog]
      · exact hget

/-- Evaluation depends only on the variables that the rule mentions. In two worlds that agree on
these, with the same host, it gives the same value or the same error, and the worlds it leaves
agree again, with the same calls made and lines logged; each of them keeps all other variables. -/
theorem eval_agreeOn (fs : Registry σ) (r : Rule) {u v : World σ} (h : u.AgreeOn r.Mentions v) :
    (r.eval fs u).1 = (r.eval fs v).1 ∧
    (r.eval fs u).2.AgreeOn r.Mentions (r.eval fs v).2 ∧
    ∀ x, ¬ r.Mentions x →
      (r.eval fs u).2.scope.get? x = u.scope.get? x ∧
      (r.eval fs v).2.scope.get? x = v.scope.get? x := by
  have hrespects : r.Respects (World.AgreeOn (σ := σ) r.Mentions) :=
    respects_agreeOn fun _ hx => hx
  have hrelated : (r.eval fs u).Related (World.AgreeOn r.Mentions) (r.eval fs v) :=
    hrespects.carries h
  obtain ⟨hresult, hworlds⟩ := hrelated
  refine ⟨hresult, hworlds, fun x hx => ?_⟩
  have hassigns : ¬ r.Assigns x := fun hx' => hx hx'.mentions
  exact ⟨get?_eval_of_not_assigns hassigns u, get?_eval_of_not_assigns hassigns v⟩

/-- So it is with a rule that raises a level and reports it, where only one of two scopes has a
lamp. -/
theorem eval_agreeOn_level :
    ∃ (fs : Registry Nat) (u v : World Nat) (r : Rule),
      r = .block [.binary .assign (.symbol "level")
          (.binary (.arithmetic .add) (.symbol "level") (.number 1)),
        .call "report" [.symbol "level"]] ∧
      u.AgreeOn r.Mentions v ∧ u.scope.get? "lamp" ≠ v.scope.get? "lamp" ∧
      (r.eval fs u).1 = (r.eval fs v).1 ∧
      (r.eval fs u).2.AgreeOn r.Mentions (r.eval fs v).2 ∧
      (r.eval fs u).2.calls = [⟨"report", [.number 4]⟩] ∧
      (r.eval fs v).2.scope.get? "lamp" = none := by
  let fs : Registry Nat := ⟨[("report", fun _ n => ⟨.boolean true, n + 1, []⟩)]⟩
  let u : World Nat := ⟨⟨[("level", .number 3), ("lamp", .boolean true)]⟩, 0, [], []⟩
  let v : World Nat := ⟨⟨[("level", .number 3)]⟩, 0, [], []⟩
  let r : Rule := .block [.binary .assign (.symbol "level")
      (.binary (.arithmetic .add) (.symbol "level") (.number 1)),
    .call "report" [.symbol "level"]]
  have hagree : u.AgreeOn r.Mentions v := by
    refine ⟨rfl, rfl, rfl, fun x hx => ?_⟩
    have hlevel : x = "level" := by simpa [r, Mentions, subtrees, subtreesAll] using hx
    rw [hlevel]
    rfl
  have hlamp : ¬ r.Mentions "lamp" := by simp [r, Mentions, subtrees, subtreesAll]
  obtain ⟨hresult, hworlds, hothers⟩ := eval_agreeOn fs r hagree
  have hlamps : u.scope.get? "lamp" ≠ v.scope.get? "lamp" :=
    Option.some_ne_none (Value.boolean true)
  exact ⟨fs, u, v, r, rfl, hagree, hlamps, hresult, hworlds, rfl, (hothers "lamp" hlamp).2⟩

end Rule
end ChordRules
