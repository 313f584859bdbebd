import ChordRules.Proofs.Grammar.Words

/-! # The grammar of rules

The grammar is a relation over token texts: `Derives p xs a ys` says that a phrase at the front of
`xs` stands for `a` and leaves `ys`. Optional parts are greedy, so a rule that leaves one out says
that the text ahead does not begin with it. -/
namespace ChordRules

/-- The phrases of the language. A rest is what follows the first brace of a block, the first
parenthesis of a call, or its first argument. -/
inductive Phrase where
  | program | block | blockRest | statement | expression | operand | term
  | arguments | argumentsRest
  deriving DecidableEq, Repr

abbrev Phrase.Tree : Phrase → Type
  | .statement | .expression | .operand | .term => Rule
  | .program | .block | .blockRest | .arguments | .argumentsRest => List Rule

/-- An operator leads the texts as the first two joined, or else as the first alone. -/
inductive LeadsWith (op : Operator) : List String → List String → Prop
  | pair {x y : String} {ys : List String} (h : x ++ y = op.symbol) :
      LeadsWith op (x :: y :: ys) ys
  | single {x : String} {ys : List String}
      (hpair : ∀ y ∈ ys.head?, ∀ other : Operator, x ++ y ≠ other.symbol) (h : x = op.symbol) :
      LeadsWith op (x :: ys) ys

theorem Operator.ofSymbol?_eq_some_iff {x : String} {op : Operator} :
    Operator.ofSymbol? x = some op ↔ x = op.symbol := by
  constructor
  · intro h
    exact (Operator.symbol_of_ofSymbol? h).symm
  · rintro rfl
    exact Operator.ofSymbol?_symbol op

theorem Operator.ofSymbol?_eq_none_iff {x : String} :
    Operator.ofSymbol? x = none ↔ ∀ op : Operator, x ≠ op.symbol := by
  simp only [Option.eq_none_iff_forall_ne_some, ne_eq, Operator.ofSymbol?_eq_some_iff]

theorem leadsWith_cons_iff {op : Operator} {x : String} {ys zs : List String} :
    LeadsWith op (x :: ys) zs ↔
      (∃ y, ys = y :: zs ∧ x ++ y = op.symbol) ∨
        (zs = ys ∧ x = op.symbol ∧
          ∀ y ∈ ys.head?, ∀ other : Operator, x ++ y ≠ other.symbol) := by
  constructor
  · intro h
    cases h with
    | pair h => exact .inl ⟨_, rfl, h⟩
    | single hpair h => exact .inr ⟨rfl, h, hpair⟩
  · rintro (⟨y, rfl, h⟩ | ⟨rfl, h, hpair⟩)
    · exact .pair h
    · exact .single hpair h

def OperatorAhead (xs : List String) (o : Option Operator) (ys : List String) : Prop :=
  (∃ op, o = some op ∧ LeadsWith op xs ys) ∨
    (o = none ∧ ys = xs ∧ ∀ op zs, ¬ LeadsWith op xs zs)

theorem operatorAhead_pair {x y : String} {op : Operator}
    (h : Operator.ofSymbol? (x ++ y) = some op) (ys : List String) (o : Option Operator)
    (zs : List String) : OperatorAhead (x :: y :: ys) o zs ↔ o = some op ∧ zs = ys := by
  have hsymbol := Operator.ofSymbol?_eq_some_iff.1 h
  constructor
  · rintro (⟨op', rfl, hleads⟩ | ⟨-, -, hnone⟩)
    · rcases leadsWith_cons_iff.1 hleads with ⟨_, ⟨⟩, h'⟩ | ⟨-, -, hpair⟩
      · rw [← Operator.ofSymbol?_eq_some_iff, h] at h'
        exact ⟨h'.symm, rfl⟩
      · exact absurd hsymbol (hpair y rfl op)
    · exact absurd (.pair hsymbol) (hnone op ys)
  · rintro ⟨rfl, rfl⟩
    exact .inl ⟨op, rfl, .pair hsymbol⟩

theorem operatorAhead_single {x : String} {ys : List String} {op : Operator}
    (hpair : ∀ y ∈ ys.head?, Operator.ofSymbol? (x ++ y) = none)
    (h : Operator.ofSymbol? x = some op) (o : Option Operator) (zs : List String) :
    OperatorAhead (x :: ys) o zs ↔ o = some op ∧ zs = ys := by
  have hpair' : ∀ y ∈ ys.head?, ∀ other : Operator, x ++ y ≠ other.symbol :=
    fun y hy => Operator.ofSymbol?_eq_none_iff.1 (hpair y hy)
  have hsymbol := Operator.ofSymbol?_eq_some_iff.1 h
  constructor
  · rintro (⟨op', rfl, hleads⟩ | ⟨-, -, hnone⟩)
    · rcases leadsWith_cons_iff.1 hleads with ⟨y, rfl, h'⟩ | ⟨rfl, h', -⟩
      · exact absurd h' (hpair' y rfl op')
      · rw [← Operator.ofSymbol?_eq_some_iff, h] at h'
        exact ⟨h'.symm, rfl⟩
    · exact absurd (.single hpair' hsymbol) (hnone op ys)
  · rintro ⟨rfl, rfl⟩
    exact .inl ⟨op, rfl, .single hpair' hsymbol⟩

theorem operatorAhead_none {xs : List String}
    (hpair : ∀ x ys, xs = x :: ys → ∀ y ∈ ys.head?, Operator.ofSymbol? (x ++ y) = none)
    (hsingle : ∀ x ∈ xs.head?, Operator.ofSymbol? x = none) (o : Option Operator)
    (zs : List String) : OperatorAhead xs o zs ↔ o = none ∧ zs = xs := by
  have hnone : ∀ op zs, ¬ LeadsWith op xs zs := by
    intro op zs hleads
    cases hleads with
    | pair h => exact Operator.ofSymbol?_eq_none_iff.1 (hpair _ _ rfl _ rfl) op h
    | single _ h => exact Operator.ofSymbol?_eq_none_iff.1 (hsingle _ rfl) op h
  constructor
  · rintro (⟨op, -, hleads⟩ | ⟨rfl, rfl, -⟩)
    · exact absurd hleads (hnone op zs)
    · exact ⟨rfl, rfl⟩
  · rintro ⟨rfl, rfl⟩
    exact .inr ⟨rfl, rfl, hnone⟩

/-- The grammar. An `if` that has no `else`, an expression without an operator and a name that is
not called may stand only where the text ahead does not continue them. -/
inductive Derives : (p : Phrase) → List String → p.Tree → List String → Prop
  | noStatement : Derives .program [] [] []
  | statements {xs ys zs : List String} {ss ts : List Rule} (first : Derives .block xs ss ys)
      (rest : Derives .program ys ts zs) : Derives .program xs (ss ++ ts) zs
  | braced {xs ys : List String} {ss : List Rule} (rest : Derives .blockRest xs ss ys) :
      Derives .block ("\x7b" :: xs) ss ys
  | bare {xs ys : List String} {s : Rule} (h : Derives .statement xs s ys) :
      Derives .block xs [s] ys
  | closed {xs : List String} : Derives .blockRest ("\x7d" :: xs) [] xs
  | more {xs ys zs : List String} {ss ts : List Rule} (first : Derives .block xs ss ys)
      (rest : Derives .blockRest ys ts zs) : Derives .blockRest xs (ss ++ ts) zs
  | ifThen {xs ys zs : List String} {c : Rule} {ss : List Rule}
      (condition : Derives .expression xs c (")" :: ys)) (body : Derives .block ys ss zs)
      (greedy : zs.head? ≠ some "else") :
      Derives .statement ("if" :: "(" :: xs) (.ifThen c (.block ss)) zs
  | ifElse {xs ys zs us : List String} {c : Rule} {ss ts : List Rule}
      (condition : Derives .expression xs c (")" :: ys)) (body : Derives .block ys ss ("else" :: zs))
      (other : Derives .block zs ts us) :
      Derives .statement ("if" :: "(" :: xs) (.ifElse c (.block ss) (.block ts)) us
  | plain {xs ys : List String} {r : Rule} (h : Derives .expression xs r ys) :
      Derives .statement xs r ys
  | alone {xs ys : List String} {r : Rule} (h : Derives .operand xs r ys)
      (greedy : ∀ op zs, ¬ LeadsWith op ys zs) : Derives .expression xs r ys
  | binary {xs ys zs us : List String} {op : Operator} {l r : Rule}
      (left : Derives .operand xs l ys) (operator : LeadsWith op ys zs)
      (target : op = .assign → l.isSymbol = true) (right : Derives .expression zs r us) :
      Derives .expression xs (.binary op l r) us
  | parenthesized {xs ys : List String} {r : Rule} (h : Derives .expression xs r (")" :: ys)) :
      Derives .operand ("(" :: xs) r ys
  | unparenthesized {xs ys : List String} {r : Rule} (h : Derives .term xs r ys) :
      Derives .operand xs r ys
  | word {x : String} {xs : List String} {r : Rule} (h : Word x r)
      (greedy : r.isSymbol = true → xs.head? ≠ some "(") : Derives .term (x :: xs) r xs
  | call {name : String} {xs ys : List String} {args : List Rule} (h : IsName name)
      (arguments : Derives .arguments xs args ys) :
      Derives .term (name :: "(" :: xs) (.call name args) ys
  | noArgument {xs : List String} : Derives .arguments (")" :: xs) [] xs
  | argument {xs ys zs : List String} {a : Rule} {as : List Rule}
      (first : Derives .expression xs a ys) (rest : Derives .argumentsRest ys as zs) :
      Derives .arguments xs (a :: as) zs
  | lastArgument {xs : List String} : Derives .argumentsRest (")" :: xs) [] xs
  | nextArgument {xs ys zs : List String} {a : Rule} {as : List Rule}
      (first : Derives .expression xs a ys) (rest : Derives .argumentsRest ys as zs) :
      Derives .argumentsRest ("," :: xs) (a :: as) zs

/-- A program is read block by block. -/
theorem Derives.program_induction {motive : List String → List Rule → List String → Prop}
    (noStatement : motive [] [] [])
    (statements : ∀ xs ys zs ss ts, Derives .block xs ss ys → Derives .program ys ts zs →
      motive ys ts zs → motive xs (ss ++ ts) zs)
    {xs ys : List String} {ss : List Rule} (h : Derives .program xs ss ys) : motive xs ss ys := by
  have general : ∀ {p : Phrase} {xs ys : List String} {a : p.Tree}, Derives p xs a ys →
      ∀ ss : List Rule, (⟨p, a⟩ : Σ p : Phrase, p.Tree) = ⟨.program, ss⟩ → motive xs ss ys := by
    intro p xs ys a h
    induction h with
    | noStatement =>
      rintro _ ⟨⟩
      exact noStatement
    | statements first rest _ ih =>
      rintro _ ⟨⟩
      exact statements _ _ _ _ _ first rest (ih _ rfl)
    | _ => nofun
  exact general h ss rfl

theorem Derives.program_rest {xs ys : List String} {ss : List Rule}
    (h : Derives .program xs ss ys) : ys = [] := by
  refine h.program_induction (motive := fun _ _ ys => ys = []) rfl ?_
  intro _ _ _ _ _ _ _ ih
  exact ih

theorem Derives.program_of_block {xs : List String} {ss : List Rule}
    (h : Derives .block xs ss []) : Derives .program xs ss [] := by
  have hprogram := Derives.statements h .noStatement
  rwa [List.append_nil] at hprogram

/-- Texts that are no word on their own: what opens, divides or closes phrases. -/
def punctuation : List String := ["if", "else", "\x7b", "\x7d", "(", ")", ","]

/-- A text that is refused as a word is none. -/
theorem Word.ne_of_refused {x y : String} {r : Rule} (h : Word x r)
    (hy : (Lexeme.classify ⟨y, .start⟩).isOk = false) : x ≠ y := by
  rintro rfl
  have hok : Lexeme.classify ⟨x, .start⟩ = .ok r := classify_eq_ok_iff.2 h
  rw [hok] at hy
  cases hy

theorem Word.not_mem_punctuation {x : String} {r : Rule} (h : Word x r) : x ∉ punctuation := by
  have hrefused : ∀ y ∈ punctuation, (Lexeme.classify ⟨y, .start⟩).isOk = false := by decide
  intro hmem
  exact h.ne_of_refused (hrefused x hmem) rfl

theorem Derives.head_term {xs ys : List String} {r : Rule} (h : Derives .term xs r ys) :
    ∃ x zs, xs = x :: zs ∧ x ∉ punctuation := by
  cases h with
  | word h _ => exact ⟨_, _, rfl, h.not_mem_punctuation⟩
  | call h _ => exact ⟨_, _, rfl, (Word.name _ h).not_mem_punctuation⟩

theorem Derives.head_operand {xs ys : List String} {r : Rule} (h : Derives .operand xs r ys) :
    ∃ x zs, xs = x :: zs ∧ (x = "(" ∨ x ∉ punctuation) := by
  cases h with
  | parenthesized h => exact ⟨_, _, rfl, .inl rfl⟩
  | unparenthesized h =>
    obtain ⟨x, zs, hxs, hx⟩ := h.head_term
    exact ⟨x, zs, hxs, .inr hx⟩

theorem Derives.head_expression {xs ys : List String} {r : Rule}
    (h : Derives .expression xs r ys) : ∃ x zs, xs = x :: zs ∧ (x = "(" ∨ x ∉ punctuation) := by
  cases h with
  | alone h _ => exact h.head_operand
  | binary h _ _ _ => exact h.head_operand

/-- No expression begins with punctuation other than an opening parenthesis. -/
theorem Derives.head?_expression {xs ys : List String} {r : Rule} {x : String}
    (h : Derives .expression xs r ys) (hx : x ∈ punctuation) (hne : x ≠ "(") :
    xs.head? ≠ some x := by
  obtain ⟨y, zs, rfl, hy⟩ := h.head_expression
  rintro ⟨⟩
  rcases hy with rfl | hy
  · exact hne rfl
  · exact hy hx

theorem Derives.head?_statement {xs ys : List String} {r : Rule} {x : String}
    (h : Derives .statement xs r ys) (hx : x ∈ punctuation) (hne : x ≠ "(") (hif : x ≠ "if") :
    xs.head? ≠ some x := by
  cases h with
  | ifThen | ifElse =>
    rintro ⟨⟩
    exact hif rfl
  | plain h => exact h.head?_expression hx hne

theorem Derives.head?_block {xs ys : List String} {ss : List Rule} {x : String}
    (h : Derives .block xs ss ys) (hx : x ∈ punctuation) (hne : x ≠ "(") (hif : x ≠ "if")
    (hbrace : x ≠ "\x7b") : xs.head? ≠ some x := by
  cases h with
  | braced =>
    rintro ⟨⟩
    exact hbrace rfl
  | bare h => exact h.head?_statement hx hne hif

theorem Derives.block_ne_nil {ys : List String} {ss : List Rule} : ¬ Derives .block [] ss ys := by
  intro h
  cases h with
  | bare h =>
    cases h with
    | plain h =>
      obtain ⟨x, zs, hxs, -⟩ := h.head_expression
      cases hxs

def InVocabulary (x : String) : Prop :=
  x ∈ punctuation ∨ (∃ r, Word x r) ∨ ∃ op : Operator, x.toList <:+: op.symbol.toList

/-- `Consumes xs ys`: the texts `xs` go on with `ys` behind some of the vocabulary. -/
def Consumes (xs ys : List String) : Prop := ∃ front, xs = front ++ ys ∧ ∀ x ∈ front, InVocabulary x

namespace Consumes

theorem refl (xs : List String) : Consumes xs xs := ⟨[], rfl, nofun⟩

theorem trans {xs ys zs : List String} (h₁ : Consumes xs ys) (h₂ : Consumes ys zs) :
    Consumes xs zs := by
  obtain ⟨front₁, rfl, hfront₁⟩ := h₁
  obtain ⟨front₂, rfl, hfront₂⟩ := h₂
  exact ⟨front₁ ++ front₂, (List.append_assoc _ _ _).symm,
    List.forall_mem_append.2 ⟨hfront₁, hfront₂⟩⟩

theorem cons {x : String} {xs ys : List String} (hx : InVocabulary x) (h : Consumes xs ys) :
    Consumes (x :: xs) ys := by
  obtain ⟨front, rfl, hfront⟩ := h
  exact ⟨x :: front, rfl, List.forall_mem_cons.2 ⟨hx, hfront⟩⟩

theorem mark {x : String} {xs ys : List String} (hx : x ∈ punctuation) (h : Consumes xs ys) :
    Consumes (x :: xs) ys := h.cons (.inl hx)

/-- What is left is the end of what there was. -/
theorem suffix {xs ys : List String} (h : Consumes xs ys) : ys <:+ xs := by
  obtain ⟨front, rfl, -⟩ := h
  exact List.suffix_append front ys

end Consumes

theorem LeadsWith.consumes {op : Operator} {xs ys : List String} (h : LeadsWith op xs ys) :
    Consumes xs ys := by
  cases h with
  | @pair x y _ h =>
    have hx : InVocabulary x := .inr (.inr ⟨op, [], y.toList, by simp [← h]⟩)
    have hy : InVocabulary y := .inr (.inr ⟨op, x.toList, [], by simp [← h]⟩)
    exact .cons hx (.cons hy (.refl _))
  | single _ h => exact .cons (.inr (.inr ⟨op, h ▸ List.infix_rfl⟩)) (.refl _)

/-- Phrases take nothing but the vocabulary. -/
theorem Derives.consumes {p : Phrase} {xs ys : List String} {a : p.Tree} (h : Derives p xs a ys) :
    Consumes xs ys := by
  induction h with
  | noStatement => exact .refl _
  | statements _ _ ih₁ ih₂ => exact ih₁.trans ih₂
  | braced _ ih => exact ih.mark (by decide)
  | bare _ ih => exact ih
  | closed => exact (Consumes.refl _).mark (by decide)
  | more _ _ ih₁ ih₂ => exact ih₁.trans ih₂
  | ifThen _ _ _ ih₁ ih₂ =>
    exact ((ih₁.trans (ih₂.mark (by decide))).mark (by decide)).mark (by decide)
  | ifElse _ _ _ ih₁ ih₂ ih₃ =>
    have hbranches := ih₂.trans (ih₃.mark (by decide))
    exact ((ih₁.trans (hbranches.mark (by decide))).mark (by decide)).mark (by decide)
  | plain _ ih => exact ih
  | alone _ _ ih => exact ih
  | binary _ hop _ _ ih₁ ih₂ => exact ih₁.trans (hop.consumes.trans ih₂)
  | parenthesized _ ih =>
    exact (ih.trans ((Consumes.refl _).mark (by decide))).mark (by decide)
  | unparenthesized _ ih => exact ih
  | word h _ => exact .cons (.inr (.inl ⟨_, h⟩)) (.refl _)
  | call h _ ih => exact .cons (.inr (.inl ⟨_, .name _ h⟩)) (ih.mark (by decide))
  | noArgument => exact (Consumes.refl _).mark (by decide)
  | argument _ _ ih₁ ih₂ => exact ih₁.trans ih₂
  | lastArgument => exact (Consumes.refl _).mark (by decide)
  | nextArgument _ _ ih₁ ih₂ => exact (ih₁.trans ih₂).mark (by decide)

theorem LeadsWith.suffix {op : Operator} {xs ys : List String} (h : LeadsWith op xs ys) :
    ys <:+ xs := h.consumes.suffix

/-- What a phrase leaves is the end of what it was read from. -/
theorem Derives.suffix {p : Phrase} {xs ys : List String} {a : p.Tree} (h : Derives p xs a ys) :
    ys <:+ xs := h.consumes.suffix

end ChordRules
