import ChordRules.Proofs.Evaluation.Explanation
import ChordRules.Proofs.Grammar.Acceptance
import ChordRules.Proofs.Token.Layout

/-! # The trees of rule texts

What grammar and tokens grant about a tree: which rules stand where, what is assigned to, and
which names, numbers and texts occur (`isProgram_of_ofText`). Rules of this form never fail for
want of something to assign to (`IsProgram.eval_ne_notAssignable`). -/
namespace ChordRules

namespace Rule

/-- An expression holds neither blocks nor conditionals, and it assigns to symbols only. -/
inductive IsExpression : Rule → Prop
  | text {s : String} (h : '"' ∉ s.toList) : IsExpression (.text s)
  | number {n : Int64} (h : 0 ≤ n.toInt) : IsExpression (.number n)
  | symbol {name : String} (h : IsName name) : IsExpression (.symbol name)
  | call {name : String} {args : List Rule} (h : IsName name)
      (hargs : ∀ a ∈ args, a.IsExpression) : IsExpression (.call name args)
  | binary {op : Operator} {l r : Rule} (target : op = .assign → l.isSymbol = true)
      (hl : l.IsExpression) (hr : r.IsExpression) : IsExpression (.binary op l r)

/-- A statement is an expression, or a conditional with blocks of statements as branches. -/
inductive IsStatement : Rule → Prop
  | expression {r : Rule} (h : r.IsExpression) : IsStatement r
  | ifThen {c : Rule} {ss : List Rule} (hc : c.IsExpression) (hss : ∀ s ∈ ss, s.IsStatement) :
      IsStatement (.ifThen c (.block ss))
  | ifElse {c : Rule} {ss ts : List Rule} (hc : c.IsExpression) (hss : ∀ s ∈ ss, s.IsStatement)
      (hts : ∀ t ∈ ts, t.IsStatement) : IsStatement (.ifElse c (.block ss) (.block ts))

def IsProgram (r : Rule) : Prop := ∃ ss, r = .block ss ∧ ∀ s ∈ ss, s.IsStatement

theorem not_isStatement_block {ss : List Rule} : ¬ (block ss).IsStatement := by
  rintro ⟨⟨⟩⟩

theorem isStatement_ifThen_iff {c t : Rule} :
    (ifThen c t).IsStatement ↔ c.IsExpression ∧ t.IsProgram := by
  constructor
  · intro h
    cases h with
    | expression h => cases h
    | ifThen hc hss => exact ⟨hc, _, rfl, hss⟩
  · rintro ⟨hc, ss, rfl, hss⟩
    exact .ifThen hc hss

theorem isStatement_ifElse_iff {c t e : Rule} :
    (ifElse c t e).IsStatement ↔ c.IsExpression ∧ t.IsProgram ∧ e.IsProgram := by
  constructor
  · intro h
    cases h with
    | expression h => cases h
    | ifElse hc hss hts => exact ⟨hc, ⟨_, rfl, hss⟩, ⟨_, rfl, hts⟩⟩
  · rintro ⟨hc, ⟨ss, rfl, hss⟩, ⟨ts, rfl, hts⟩⟩
    exact .ifElse hc hss hts

/-- An operation is a statement if its operands are expressions and it assigns to a symbol. -/
theorem isStatement_binary_iff {op : Operator} {l r : Rule} :
    (binary op l r).IsStatement ↔
      (op = .assign → l.isSymbol = true) ∧ l.IsExpression ∧ r.IsExpression := by
  constructor
  · intro h
    cases h with
    | expression h =>
      cases h with
      | binary target hl hr => exact ⟨target, hl, hr⟩
  · rintro ⟨target, hl, hr⟩
    exact .expression (.binary target hl hr)

/-- A call is a statement if a name is called with expressions. -/
theorem isStatement_call_iff {name : String} {args : List Rule} :
    (call name args).IsStatement ↔ IsName name ∧ ∀ a ∈ args, a.IsExpression := by
  constructor
  · intro h
    cases h with
    | expression h =>
      cases h with
      | call hname hargs => exact ⟨hname, hargs⟩
  · rintro ⟨hname, hargs⟩
    exact .expression (.call hname hargs)

/-- Every part of a program is a statement, or a branch with its statements. -/
theorem Part.isStatement_or_isProgram {p r : Rule} (hp : Part p r)
    (h : r.IsStatement ∨ r.IsProgram) : p.IsStatement ∨ p.IsProgram := by
  induction hp with
  | whole => exact h
  | statement hs _ ih =>
    rcases h with h | ⟨ss, heq, hss⟩
    · exact absurd h not_isStatement_block
    · cases heq
      exact ih (.inl (hss _ hs))
  | ifThenCondition _ ih =>
    rcases h with h | ⟨ss, ⟨⟩, -⟩
    exact ih (.inl (.expression (isStatement_ifThen_iff.1 h).1))
  | ifThenBody _ ih =>
    rcases h with h | ⟨ss, ⟨⟩, -⟩
    exact ih (.inr (isStatement_ifThen_iff.1 h).2)
  | ifElseCondition _ ih =>
    rcases h with h | ⟨ss, ⟨⟩, -⟩
    exact ih (.inl (.expression (isStatement_ifElse_iff.1 h).1))
  | ifElseBody _ ih =>
    rcases h with h | ⟨ss, ⟨⟩, -⟩
    exact ih (.inr (isStatement_ifElse_iff.1 h).2.1)
  | ifElseOther _ ih =>
    rcases h with h | ⟨ss, ⟨⟩, -⟩
    exact ih (.inr (isStatement_ifElse_iff.1 h).2.2)
  | left _ _ ih =>
    rcases h with h | ⟨ss, ⟨⟩, -⟩
    exact ih (.inl (.expression (isStatement_binary_iff.1 h).2.1))
  | right _ ih =>
    rcases h with h | ⟨ss, ⟨⟩, -⟩
    exact ih (.inl (.expression (isStatement_binary_iff.1 h).2.2))
  | argument ha _ ih =>
    rcases h with h | ⟨ss, ⟨⟩, -⟩
    exact ih (.inl (.expression ((isStatement_call_iff.1 h).2 _ ha)))

/-- Whatever the variables and the functions, a program never assigns to anything but symbols. -/
theorem IsProgram.eval_ne_notAssignable {r : Rule} (h : r.IsProgram) {σ : Type}
    (fs : Registry σ) (w : World σ) (target : String) :
    (r.eval fs w).1 ≠ .error (.notAssignable target) := by
  intro herror
  obtain ⟨l, r', hpart, hl, -⟩ := accountsFor_of_eval (Prod.ext herror rfl)
  have hsymbol : l.isSymbol = true := by
    rcases hpart.isStatement_or_isProgram (.inr h) with h | ⟨ss, ⟨⟩, -⟩
    exact (isStatement_binary_iff.1 h).1 rfl
  rw [hl] at hsymbol
  cases hsymbol

end Rule

def Phrase.Yields : (p : Phrase) → p.Tree → Prop
  | .statement => fun r => r.IsStatement
  | .expression | .operand | .term => fun r => r.IsExpression
  | .program | .block | .blockRest => fun ss => ∀ s ∈ ss, s.IsStatement
  | .arguments | .argumentsRest => fun as => ∀ a ∈ as, a.IsExpression

/-- A word that is one token spells an expression. -/
theorem Word.isExpression {x : String} {r : Rule} (h : Word x r) (htoken : IsToken x.toList []) :
    r.IsExpression := by
  cases h with
  | text s =>
    have hlist : ("\"" ++ s ++ "\"").toList = '"' :: (s.toList ++ ['"']) := by simp
    rw [hlist] at htoken
    generalize htext : '"' :: (s.toList ++ ['"']) = cs at htoken
    cases htoken with
    | string hbody =>
      have heq := List.append_cancel_right (List.cons.inj htext).2
      exact .text (heq ▸ hbody)
    | word _ hw _ =>
      have hquote := hw '"' (htext ▸ List.mem_cons_self)
      simp [show isWordChar '"' = false by decide] at hquote
    | single => simp at htext
  | number n hn => exact .number hn
  | name x hx => exact .symbol hx

/-- What derives from tokens is built as the phrase says. -/
theorem Derives.yields {p : Phrase} {xs ys : List String} {a : p.Tree} (h : Derives p xs a ys)
    (htokens : AreTokens xs) : p.Yields a := by
  induction h with
  | noStatement => nofun
  | statements h₁ _ ih₁ ih₂ =>
    exact List.forall_mem_append.2 ⟨ih₁ htokens, ih₂ (htokens.suffix h₁.suffix)⟩
  | braced _ ih => exact ih (htokens.suffix (List.suffix_cons _ _))
  | bare _ ih => exact List.forall_mem_singleton.2 (ih htokens)
  | closed => nofun
  | more h₁ _ ih₁ ih₂ =>
    exact List.forall_mem_append.2 ⟨ih₁ htokens, ih₂ (htokens.suffix h₁.suffix)⟩
  | ifThen h₁ _ _ ih₁ ih₂ =>
    have htokens₁ := htokens.suffix (List.suffix_append [_, _] _)
    have htokens₂ := htokens₁.suffix ((List.suffix_cons _ _).trans h₁.suffix)
    exact .ifThen (ih₁ htokens₁) (ih₂ htokens₂)
  | ifElse h₁ h₂ _ ih₁ ih₂ ih₃ =>
    have htokens₁ := htokens.suffix (List.suffix_append [_, _] _)
    have htokens₂ := htokens₁.suffix ((List.suffix_cons _ _).trans h₁.suffix)
    have htokens₃ := htokens₂.suffix ((List.suffix_cons _ _).trans h₂.suffix)
    exact .ifElse (ih₁ htokens₁) (ih₂ htokens₂) (ih₃ htokens₃)
  | plain _ ih => exact .expression (ih htokens)
  | alone _ _ ih => exact ih htokens
  | binary h₁ hop target _ ih₁ ih₂ =>
    have htokens₂ := htokens.suffix (hop.suffix.trans h₁.suffix)
    exact .binary target (ih₁ htokens) (ih₂ htokens₂)
  | parenthesized _ ih => exact ih (htokens.suffix (List.suffix_cons _ _))
  | unparenthesized _ ih => exact ih htokens
  | word h _ => exact h.isExpression (htokens _ List.mem_cons_self)
  | call h _ ih => exact .call h (ih (htokens.suffix (List.suffix_append [_, _] _)))
  | noArgument => nofun
  | argument h₁ _ ih₁ ih₂ =>
    exact List.forall_mem_cons.2 ⟨ih₁ htokens, ih₂ (htokens.suffix h₁.suffix)⟩
  | lastArgument => nofun
  | nextArgument h₁ _ ih₁ ih₂ =>
    have htokens₁ := htokens.suffix (List.suffix_cons _ _)
    exact List.forall_mem_cons.2 ⟨ih₁ htokens₁, ih₂ (htokens₁.suffix h₁.suffix)⟩

/-- What a text is read as is a program. -/
theorem isProgram_of_ofText {source : String} {r : Rule} (h : Rule.ofText source = .ok r) :
    r.IsProgram := by
  obtain ⟨ss, hread, rfl⟩ := Rule.ofText_eq_ok_iff_read.1 h
  obtain ⟨-, hderives⟩ := Tape.read_eq_ok_iff.1 hread
  exact ⟨ss, rfl, hderives.yields (areTokens_ofText source)⟩

end ChordRules
