import ChordRules.Grammar.Progress
import ChordRules.Proofs.Grammar.Derivation
import ChordRules.Proofs.Token.Layout

/-! # Reading accepts exactly the grammar

A reader is exact for a relation between texts, results and the texts left if it gives what is in
the relation and nothing else. Exactness passes through the ways in which readers are put together,
so it is enough to look at each phrase once. Main statement: `ofText_eq_ok_iff`. -/
namespace ChordRules

namespace Reader

/-- Whatever the reader gives on the tape is in the relation, and if the text ends properly it
gives whatever is in the relation, unless its fuel is spent. -/
def ExactAt (p : Reader α) (P : List String → α → List String → Prop) (t : Tape) : Prop :=
  (∀ a rest, p t = .ok a rest → rest.ending = t.ending ∧ P t.texts a rest.texts) ∧
  (∀ stop a ys, t.ending = .endOfInput stop → P t.texts a ys → p t ≠ .spent →
    ∃ rest, p t = .ok a rest ∧ rest.texts = ys)

def Exact (p : Reader α) (P : List String → α → List String → Prop) : Prop :=
  ∀ t : Tape, p.ExactAt P t

theorem exactAt_of_ok {p : Reader α} {P : List String → α → List String → Prop} {t rest : Tape}
    {a : α} (h : p t = .ok a rest) (hending : rest.ending = t.ending)
    (hP : ∀ b ys, P t.texts b ys ↔ b = a ∧ ys = rest.texts) : p.ExactAt P t := by
  constructor
  · intro b rest' hok
    rw [h] at hok
    cases hok
    exact ⟨hending, (hP _ _).2 ⟨rfl, rfl⟩⟩
  · intro stop b ys _ hb _
    obtain ⟨rfl, rfl⟩ := (hP b ys).1 hb
    exact ⟨rest, h, rfl⟩

theorem exactAt_of_error {p : Reader α} {P : List String → α → List String → Prop} {t : Tape}
    {e : ParseError} (h : p t = .error e)
    (hP : ∀ stop, t.ending = .endOfInput stop → ∀ b ys, ¬ P t.texts b ys) : p.ExactAt P t := by
  constructor
  · intro b rest hok
    rw [h] at hok
    cases hok
  · intro stop b ys hending hb
    exact absurd hb (hP stop hending b ys)

theorem Exact.congr {p : Reader α} {P Q : List String → α → List String → Prop}
    (h : p.Exact P) (hPQ : ∀ xs a ys, P xs a ys ↔ Q xs a ys) : p.Exact Q := by
  intro t
  constructor
  · intro a rest hok
    obtain ⟨hending, hP⟩ := (h t).1 a rest hok
    exact ⟨hending, (hPQ _ _ _).1 hP⟩
  · intro stop a ys hending hQ
    exact (h t).2 stop a ys hending ((hPQ _ _ _).2 hQ)

theorem exact_pure (a : α) : (Pure.pure a : Reader α).Exact fun xs b ys => b = a ∧ ys = xs :=
  fun _ => exactAt_of_ok rfl rfl fun _ _ => Iff.rfl

theorem exact_fail (e : ParseError) : (fail e : Reader α).Exact fun _ _ _ => False :=
  fun _ => exactAt_of_error rfl fun _ _ _ _ => id

theorem exact_spent (P : List String → α → List String → Prop) : (spent : Reader α).Exact P :=
  fun _ => ⟨fun _ _ h => (by cases h), fun _ _ _ _ _ h => absurd rfl h⟩

theorem Exact.bind {p : Reader α} {f : α → Reader β} {P : List String → α → List String → Prop}
    {Q : α → List String → β → List String → Prop} (hp : p.Exact P)
    (hf : ∀ a, (f a).Exact (Q a)) :
    (p >>= f).Exact fun xs b zs => ∃ a ys, P xs a ys ∧ Q a ys b zs := by
  intro t
  cases hpt : p t with
  | spent =>
    have hbind : (p >>= f) t = .spent := by
      change Reader.bind p f t = .spent
      simp only [Reader.bind, hpt]
    refine ⟨fun b rest h => ?_, fun stop b zs _ _ h => absurd hbind h⟩
    rw [hbind] at h
    cases h
  | error e =>
    have hspent : p t ≠ .spent := by simp [hpt]
    refine exactAt_of_error (bind_of_error f hpt) ?_
    rintro stop hstop b zs ⟨a, ys, hP, -⟩
    obtain ⟨rest, hok, -⟩ := (hp t).2 stop a ys hstop hP hspent
    rw [hpt] at hok
    cases hok
  | ok a rest =>
    have hspent : p t ≠ .spent := by simp [hpt]
    obtain ⟨hending, hP⟩ := (hp t).1 a rest hpt
    have hbind := bind_of_ok f hpt
    constructor
    · intro b rest' hok
      rw [hbind] at hok
      obtain ⟨hending', hQ⟩ := (hf a rest).1 b rest' hok
      exact ⟨hending'.trans hending, a, rest.texts, hP, hQ⟩
    · rintro stop b zs hstop ⟨a', ys, hP', hQ⟩ hspent'
      obtain ⟨rest', hok, rfl⟩ := (hp t).2 stop a' ys hstop hP' hspent
      rw [hpt] at hok
      cases hok
      rw [hbind] at hspent' ⊢
      exact (hf a rest).2 stop b zs (hending.trans hstop) hQ hspent'

/-- The place of the next token has no part in what is read. -/
theorem Exact.position_bind {f : Position → Reader α}
    {P : List String → α → List String → Prop} (hf : ∀ p, (f p).Exact P) :
    (position >>= f).Exact P := by
  intro t
  cases hpt : position t with
  | spent =>
    obtain ⟨_ | ⟨l, ls⟩, _ | e⟩ := t <;> cases hpt
  | error e =>
    refine exactAt_of_error (bind_of_error f hpt) fun stop hstop => ?_
    obtain ⟨_ | ⟨l, ls⟩, _ | e⟩ := t <;> cases hpt
    cases hstop
  | ok p rest =>
    have hrest : rest = t := by
      obtain ⟨_ | ⟨l, ls⟩, _ | e⟩ := t <;> cases hpt <;> rfl
    subst hrest
    have hf' := hf p rest
    simp only [ExactAt, ← bind_of_ok f hpt] at hf'
    exact hf'

theorem exact_sees (x : String) :
    (sees x).Exact fun xs b ys => ys = xs ∧ b = (xs.head? == some x) := by
  rintro ⟨_ | ⟨l, ls⟩, _ | e⟩
  · exact exactAt_of_ok rfl rfl fun b ys => by simp [Tape.texts, and_comm]
  · exact exactAt_of_error rfl fun stop h => (by cases h)
  all_goals exact exactAt_of_ok rfl rfl fun b ys => by simp [Tape.texts, and_comm]

theorem exact_atEnd : atEnd.Exact fun xs b ys => ys = xs ∧ b = xs.isEmpty := by
  rintro ⟨_ | ⟨l, ls⟩, _ | e⟩
  · exact exactAt_of_ok rfl rfl fun b ys => by simp [Tape.texts, and_comm]
  · exact exactAt_of_error rfl fun stop h => (by cases h)
  all_goals exact exactAt_of_ok rfl rfl fun b ys => by simp [Tape.texts, and_comm]

theorem expect_of_eq {l : Lexeme} {x : String} (h : l.text = x) (ls : List Lexeme)
    (ending : Ending) : expect x ⟨l :: ls, ending⟩ = .ok () ⟨ls, ending⟩ := by
  change (if l.text = x then Pure.pure () else fail _ : Reader Unit) ⟨ls, ending⟩ = _
  rw [if_pos h]
  rfl

theorem expect_of_ne {l : Lexeme} {x : String} (h : l.text ≠ x) (ls : List Lexeme)
    (ending : Ending) :
    expect x ⟨l :: ls, ending⟩ = .error (.expected x l.text l.start) := by
  change (if l.text = x then Pure.pure () else fail _ : Reader Unit) ⟨ls, ending⟩ = _
  rw [if_neg h]
  rfl

theorem exact_expect (x : String) : (expect x).Exact fun xs _ ys => xs = x :: ys := by
  rintro ⟨_ | ⟨l, ls⟩, ending⟩
  · cases ending
    all_goals exact exactAt_of_error rfl fun _ _ _ _ => nofun
  · by_cases hl : l.text = x
    · refine exactAt_of_ok (expect_of_eq hl ls ending) rfl fun b ys => ?_
      simp [Tape.texts, hl, eq_comm]
    · refine exactAt_of_error (expect_of_ne hl ls ending) fun stop _ b ys h => ?_
      exact hl (List.cons.inj h).1

theorem word_of_ok {l : Lexeme} {r : Rule} (h : l.classify = .ok r) (ls : List Lexeme)
    (ending : Ending) : word ⟨l :: ls, ending⟩ = .ok r ⟨ls, ending⟩ := by
  rw [word, bind_of_ok (p := take "expression") _ rfl, h]
  rfl

theorem word_of_error {l : Lexeme} {e : ParseError} (h : l.classify = .error e)
    (ls : List Lexeme) (ending : Ending) : word ⟨l :: ls, ending⟩ = .error e := by
  rw [word, bind_of_ok (p := take "expression") _ rfl, h]
  rfl

theorem exact_word : word.Exact fun xs r ys => ∃ x, xs = x :: ys ∧ Word x r := by
  rintro ⟨_ | ⟨l, ls⟩, ending⟩
  · cases ending
    all_goals exact exactAt_of_error rfl fun _ _ _ _ h => (by obtain ⟨x, h, -⟩ := h; cases h)
  · cases hl : l.classify with
    | ok r =>
      refine exactAt_of_ok (word_of_ok hl ls ending) rfl fun b ys => ⟨?_, ?_⟩
      · rintro ⟨x, hx, h⟩
        cases hx
        rw [← classify_eq_ok_iff, hl] at h
        exact ⟨(Except.ok.inj h).symm, rfl⟩
      · rintro ⟨rfl, rfl⟩
        exact ⟨l.text, rfl, classify_eq_ok_iff.1 hl⟩
    | error e =>
      refine exactAt_of_error (word_of_error hl ls ending) fun stop _ b ys => ?_
      rintro ⟨x, hx, h⟩
      cases hx
      rw [← classify_eq_ok_iff, hl] at h
      cases h

theorem operator?_two (l m : Lexeme) (ls : List Lexeme) (ending : Ending) :
    operator? ⟨l :: m :: ls, ending⟩ =
      match Operator.ofSymbol? (l.text ++ m.text), Operator.ofSymbol? l.text with
      | some op, _ => .ok (some op) ⟨ls, ending⟩
      | none, some op => .ok (some op) ⟨m :: ls, ending⟩
      | none, none => .ok none ⟨l :: m :: ls, ending⟩ := by
  rw [operator?, bind_of_ok (p := lookTwo) _ rfl]
  simp only [Option.bind_some]
  cases Operator.ofSymbol? (l.text ++ m.text) <;> cases Operator.ofSymbol? l.text <;> rfl

theorem operator?_one (l : Lexeme) (p : Position) :
    operator? ⟨[l], .endOfInput p⟩ =
      match Operator.ofSymbol? l.text with
      | some op => .ok (some op) ⟨[], .endOfInput p⟩
      | none => .ok none ⟨[l], .endOfInput p⟩ := by
  rw [operator?, bind_of_ok (p := lookTwo) _ rfl]
  simp only [Option.bind_none]
  cases Operator.ofSymbol? l.text <;> rfl

theorem exact_operator? : operator?.Exact OperatorAhead := by
  rintro ⟨_ | ⟨l, _ | ⟨m, ls⟩⟩, ending⟩
  · cases ending with
    | unclosed e => exact exactAt_of_error rfl fun stop h => (by cases h)
    | endOfInput p => exact exactAt_of_ok rfl rfl (operatorAhead_none nofun nofun)
  · cases ending with
    | unclosed e => exact exactAt_of_error rfl fun stop h => (by cases h)
    | endOfInput p =>
      have hread := operator?_one l p
      cases hsingle : Operator.ofSymbol? l.text with
      | some op =>
        rw [hsingle] at hread
        exact exactAt_of_ok hread rfl (operatorAhead_single nofun hsingle)
      | none =>
        rw [hsingle] at hread
        refine exactAt_of_ok hread rfl (operatorAhead_none ?_ ?_)
        · rintro x ys ⟨⟩ y ⟨⟩
        · rintro x ⟨⟩
          exact hsingle
  · have hread := operator?_two l m ls ending
    cases hpair : Operator.ofSymbol? (l.text ++ m.text) with
    | some op =>
      rw [hpair] at hread
      exact exactAt_of_ok hread rfl (operatorAhead_pair hpair _)
    | none =>
      cases hsingle : Operator.ofSymbol? l.text with
      | some op =>
        rw [hpair, hsingle] at hread
        refine exactAt_of_ok hread rfl (operatorAhead_single ?_ hsingle)
        rintro y ⟨⟩
        exact hpair
      | none =>
        rw [hpair, hsingle] at hread
        refine exactAt_of_ok hread rfl (operatorAhead_none ?_ ?_)
        · rintro x ys ⟨⟩ y ⟨⟩
          exact hpair
        · rintro x ⟨⟩
          exact hsingle

theorem Exact.ite {p q : Reader α} {P Q : List String → α → List String → Prop}
    (hp : p.Exact P) (hq : q.Exact Q) (b : Bool) :
    (if b then p else q).Exact fun xs a ys =>
      (b = true ∧ P xs a ys) ∨ (b = false ∧ Q xs a ys) := by
  cases b with
  | true => exact hp.congr fun _ _ _ => by simp
  | false => exact hq.congr fun _ _ _ => by simp

theorem Exact.ifSees {x : String} {p q : Reader α} {P Q : List String → α → List String → Prop}
    (hp : p.Exact P) (hq : q.Exact Q) :
    (sees x >>= fun b => if b then p else q).Exact fun xs a ys =>
      (xs.head? = some x ∧ P xs a ys) ∨ (xs.head? ≠ some x ∧ Q xs a ys) := by
  refine ((exact_sees x).bind (Exact.ite hp hq)).congr fun xs a ys => ?_
  by_cases h : xs.head? = some x <;> simp [h]

theorem Exact.ifAtEnd {p q : Reader α} {P Q : List String → α → List String → Prop}
    (hp : p.Exact P) (hq : q.Exact Q) :
    (atEnd >>= fun b => if b then p else q).Exact fun xs a ys =>
      (xs = [] ∧ P xs a ys) ∨ (xs ≠ [] ∧ Q xs a ys) := by
  refine (exact_atEnd.bind (Exact.ite hp hq)).congr fun xs a ys => ?_
  cases xs <;> simp

theorem Exact.afterExpect (x : String) {p : Reader α} {P : List String → α → List String → Prop}
    (hp : p.Exact P) :
    (expect x >>= fun _ => p).Exact fun xs a ys => ∃ zs, xs = x :: zs ∧ P zs a ys :=
  ((exact_expect x).bind fun _ => hp).congr fun _ _ _ =>
    ⟨fun ⟨_, zs, hxs, h⟩ => ⟨zs, hxs, h⟩, fun ⟨zs, hxs, h⟩ => ⟨(), zs, hxs, h⟩⟩

theorem Exact.map {p : Reader α} {P : List String → α → List String → Prop} (hp : p.Exact P)
    (f : α → β) :
    (p >>= fun a => Pure.pure (f a)).Exact fun xs b ys => ∃ a, P xs a ys ∧ b = f a :=
  (hp.bind fun a => exact_pure (f a)).congr fun _ _ _ =>
    ⟨fun ⟨a, _, h, hb, hys⟩ => ⟨a, hys ▸ h, hb⟩, fun ⟨a, h, hb⟩ => ⟨a, _, h, hb, rfl⟩⟩

structure ReadsPhrases (n : Nat) : Prop where
  block : (block n).Exact (Derives .block)
  blockRest : (blockRest n).Exact (Derives .blockRest)
  statement : (statement n).Exact (Derives .statement)
  expression : (expression n).Exact (Derives .expression)
  operand : (operand n).Exact (Derives .operand)
  term : (term n).Exact (Derives .term)
  arguments : (arguments n).Exact (Derives .arguments)
  argumentsRest : (argumentsRest n).Exact (Derives .argumentsRest)

theorem ReadsPhrases.block_succ {n : Nat} (ih : ReadsPhrases n) :
    (Reader.block (n + 1)).Exact (Derives .block) := by
  rw [Reader.block]
  refine (Exact.ifSees (ih.blockRest.afterExpect "\x7b")
    (ih.statement.map fun s => [s])).congr fun xs ss ys => ?_
  constructor
  · rintro (⟨-, zs, rfl, h⟩ | ⟨-, s, h, rfl⟩)
    · exact .braced h
    · exact .bare h
  · intro h
    cases h with
    | braced h => exact .inl ⟨rfl, _, rfl, h⟩
    | bare h => exact .inr ⟨h.head?_statement (by decide) (by decide) (by decide), _, h, rfl⟩

theorem ReadsPhrases.blockRest_succ {n : Nat} (ih : ReadsPhrases n) :
    (Reader.blockRest (n + 1)).Exact (Derives .blockRest) := by
  rw [Reader.blockRest]
  refine (Exact.ifSees ((exact_pure []).afterExpect "\x7d")
    (Exact.ifAtEnd (exact_fail _)
      (ih.block.bind fun ss => ih.blockRest.map (ss ++ ·)))).congr fun xs ss ys => ?_
  constructor
  · rintro (⟨-, zs, rfl, rfl, rfl⟩ | ⟨-, ⟨-, h⟩ | ⟨-, ss, zs, h₁, ts, h₂, rfl⟩⟩)
    · exact .closed
    · exact h.elim
    · exact .more h₁ h₂
  · intro h
    cases h with
    | closed => exact .inl ⟨rfl, _, rfl, rfl, rfl⟩
    | more h₁ h₂ =>
      refine .inr ⟨h₁.head?_block (by decide) (by decide) (by decide) (by decide), .inr ⟨?_,
        _, _, h₁, _, h₂, rfl⟩⟩
      rintro rfl
      exact h₁.block_ne_nil

theorem ReadsPhrases.statement_succ {n : Nat} (ih : ReadsPhrases n) :
    (Reader.statement (n + 1)).Exact (Derives .statement) := by
  rw [Reader.statement]
  have hbody := fun c : Rule => ih.block.bind fun ss => Exact.ifSees (x := "else")
    ((ih.block.map fun ts => Rule.ifElse c (.block ss) (.block ts)).afterExpect "else")
    (exact_pure (Rule.ifThen c (.block ss)))
  have hif := ((ih.expression.bind fun c => (hbody c).afterExpect ")").afterExpect "(").afterExpect
    "if"
  refine (Exact.ifSees hif ih.expression).congr fun xs r ys => ?_
  constructor
  · rintro (⟨-, xs, rfl, xs', rfl, c, zs, hc, ys', rfl, ss, us, hss, h⟩ | ⟨-, h⟩)
    · rcases h with ⟨-, us', rfl, ts, hts, rfl⟩ | ⟨hgreedy, rfl, rfl⟩
      · exact .ifElse hc hss hts
      · exact .ifThen hc hss hgreedy
    · exact .plain h
  · intro h
    cases h with
    | ifThen hc hss hgreedy =>
      exact .inl ⟨rfl, _, rfl, _, rfl, _, _, hc, _, rfl, _, _, hss, .inr ⟨hgreedy, rfl, rfl⟩⟩
    | ifElse hc hss hts =>
      exact .inl ⟨rfl, _, rfl, _, rfl, _, _, hc, _, rfl, _, _, hss, .inl ⟨rfl, _, rfl, _, hts, rfl⟩⟩
    | plain h => exact .inr ⟨h.head?_expression (by decide) (by decide), h⟩

/-- What is read behind a left operand, by the operator that stands there. -/
inductive AfterOperand (left : Rule) : Option Operator → List String → Rule → List String → Prop
  | none {xs : List String} : AfterOperand left none xs left xs
  | some {op : Operator} {xs ys : List String} {right : Rule}
      (target : op = .assign → left.isSymbol = true) (h : Derives .expression xs right ys) :
      AfterOperand left (some op) xs (.binary op left right) ys

theorem afterOperand_none_iff {left r : Rule} {xs ys : List String} :
    AfterOperand left none xs r ys ↔ r = left ∧ ys = xs := by
  constructor
  · rintro ⟨⟩
    exact ⟨rfl, rfl⟩
  · rintro ⟨rfl, rfl⟩
    exact .none

/-- Behind an operator an expression is read, unless there is nothing to assign to. -/
theorem ReadsPhrases.exact_operation {n : Nat} (ih : ReadsPhrases n) (left : Rule)
    (op : Operator) (start : Position) :
    Exact (if op = .assign ∧ left.isSymbol = false then fail (.notAssignable left.render start)
      else do return Rule.binary op left (← Reader.expression n))
      (AfterOperand left (some op)) := by
  by_cases h : op = .assign ∧ left.isSymbol = false
  · obtain ⟨rfl, hleft⟩ := h
    simp only [hleft, and_self, if_true]
    refine (exact_fail _).congr fun xs r ys => ⟨False.elim, fun hafter => ?_⟩
    cases hafter with
    | some target _ => simp [target rfl] at hleft
  · simp only [h, if_false]
    have target : op = .assign → left.isSymbol = true := fun hop => by simpa [hop] using h
    refine (ih.expression.map fun right => Rule.binary op left right).congr
      fun xs r ys => ⟨?_, ?_⟩
    · rintro ⟨right, hright, rfl⟩
      exact .some target hright
    · intro hafter
      cases hafter with
      | some _ hright => exact ⟨_, hright, rfl⟩

theorem ReadsPhrases.expression_succ {n : Nat} (ih : ReadsPhrases n) :
    (Reader.expression (n + 1)).Exact (Derives .expression) := by
  rw [Reader.expression]
  refine Exact.position_bind fun start => ?_
  refine (ih.operand.bind fun left =>
    exact_operator?.bind (Q := AfterOperand left) fun o => ?_).congr fun xs r ys => ?_
  · cases o with
    | none => exact (exact_pure left).congr fun xs r ys => afterOperand_none_iff.symm
    | some op => exact ih.exact_operation left op start
  · constructor
    · rintro ⟨l, zs, hl, _ | op, us, ⟨op', hop, hleads⟩ | ⟨hop, rfl, hgreedy⟩, hr⟩
      · cases hop
      · cases hr
        exact .alone hl hgreedy
      · cases hop
        cases hr with
        | some target hright => exact .binary hl hleads target hright
      · cases hop
    · intro h
      cases h with
      | alone h hgreedy => exact ⟨_, _, h, none, _, .inr ⟨rfl, rfl, hgreedy⟩, .none⟩
      | binary hl hleads target hr =>
        exact ⟨_, _, hl, some _, _, .inl ⟨_, rfl, hleads⟩, .some target hr⟩

theorem ReadsPhrases.operand_succ {n : Nat} (ih : ReadsPhrases n) :
    (Reader.operand (n + 1)).Exact (Derives .operand) := by
  rw [Reader.operand]
  have hinner := (ih.expression.bind fun r => (exact_pure r).afterExpect ")").afterExpect "("
  refine (Exact.ifSees hinner ih.term).congr fun xs r ys => ?_
  constructor
  · rintro (⟨-, zs, rfl, r, us, h, ys, rfl, rfl, rfl⟩ | ⟨-, h⟩)
    · exact .parenthesized h
    · exact .unparenthesized h
  · intro h
    cases h with
    | parenthesized h => exact .inl ⟨rfl, _, rfl, _, _, h, _, rfl, rfl, rfl⟩
    | unparenthesized h =>
      obtain ⟨x, zs, rfl, hx⟩ := h.head_term
      refine .inr ⟨?_, h⟩
      rintro ⟨⟩
      exact hx (by decide)

/-- What is read behind a word, which is a call only behind a name. -/
inductive AfterWord : Rule → List String → Rule → List String → Prop
  | call {name : String} {xs ys : List String} {args : List Rule}
      (h : Derives .arguments xs args ys) :
      AfterWord (.symbol name) ("(" :: xs) (.call name args) ys
  | alone {r : Rule} {xs : List String} (greedy : r.isSymbol = true → xs.head? ≠ some "(") :
      AfterWord r xs r xs

theorem afterWord_iff_of_not_isSymbol {w r : Rule} {xs ys : List String}
    (hw : w.isSymbol = false) : AfterWord w xs r ys ↔ r = w ∧ ys = xs := by
  constructor
  · intro h
    cases h with
    | call => cases hw
    | alone => exact ⟨rfl, rfl⟩
  · rintro ⟨rfl, rfl⟩
    exact .alone fun hsymbol => absurd hsymbol (by simp [hw])

theorem ReadsPhrases.term_succ {n : Nat} (ih : ReadsPhrases n) :
    (Reader.term (n + 1)).Exact (Derives .term) := by
  rw [Reader.term]
  refine (exact_word.bind (Q := AfterWord) fun w => ?_).congr fun xs r ys => ?_
  · cases w
    case symbol name =>
      refine (Exact.ifSees ((ih.arguments.map fun args => Rule.call name args).afterExpect "(")
        (exact_pure (Rule.symbol name))).congr fun xs r ys => ?_
      constructor
      · rintro (⟨-, zs, rfl, args, hargs, rfl⟩ | ⟨hgreedy, rfl, rfl⟩)
        · exact .call hargs
        · exact .alone fun _ => hgreedy
      · intro h
        cases h with
        | call hargs => exact .inl ⟨rfl, _, rfl, _, hargs, rfl⟩
        | alone hgreedy => exact .inr ⟨hgreedy rfl, rfl, rfl⟩
    all_goals exact (exact_pure _).congr fun xs r ys => (afterWord_iff_of_not_isSymbol rfl).symm
  · constructor
    · rintro ⟨w, zs, ⟨x, rfl, hx⟩, hafter⟩
      cases hafter with
      | call hargs =>
        cases hx with
        | name _ hname => exact .call hname hargs
      | alone hgreedy => exact .word hx hgreedy
    · intro h
      cases h with
      | word hx hgreedy => exact ⟨_, _, ⟨_, rfl, hx⟩, .alone hgreedy⟩
      | call hname hargs => exact ⟨_, _, ⟨_, rfl, .name _ hname⟩, .call hargs⟩

theorem ReadsPhrases.arguments_succ {n : Nat} (ih : ReadsPhrases n) :
    (Reader.arguments (n + 1)).Exact (Derives .arguments) := by
  rw [Reader.arguments]
  refine (Exact.ifSees ((exact_pure []).afterExpect ")")
    (ih.expression.bind fun a => ih.argumentsRest.map (a :: ·))).congr fun xs as ys => ?_
  constructor
  · rintro (⟨-, zs, rfl, rfl, rfl⟩ | ⟨-, a, zs, ha, as, has, rfl⟩)
    · exact .noArgument
    · exact .argument ha has
  · intro h
    cases h with
    | noArgument => exact .inl ⟨rfl, _, rfl, rfl, rfl⟩
    | argument ha has =>
      exact .inr ⟨ha.head?_expression (by decide) (by decide), _, _, ha, _, has, rfl⟩

theorem ReadsPhrases.argumentsRest_succ {n : Nat} (ih : ReadsPhrases n) :
    (Reader.argumentsRest (n + 1)).Exact (Derives .argumentsRest) := by
  rw [Reader.argumentsRest]
  refine (Exact.ifSees ((ih.expression.bind fun a => ih.argumentsRest.map (a :: ·)).afterExpect ",")
    ((exact_pure []).afterExpect ")")).congr fun xs as ys => ?_
  constructor
  · rintro (⟨-, zs, rfl, a, us, ha, as, has, rfl⟩ | ⟨-, zs, rfl, rfl, rfl⟩)
    · exact .nextArgument ha has
    · exact .lastArgument
  · intro h
    cases h with
    | lastArgument => exact .inr ⟨by simp, _, rfl, rfl, rfl⟩
    | nextArgument ha has => exact .inl ⟨rfl, _, rfl, _, _, ha, _, has, rfl⟩

theorem readsPhrases (n : Nat) : ReadsPhrases n := by
  induction n with
  | zero => constructor <;> exact exact_spent _
  | succ n ih =>
    exact ⟨ih.block_succ, ih.blockRest_succ, ih.statement_succ, ih.expression_succ,
      ih.operand_succ, ih.term_succ, ih.arguments_succ, ih.argumentsRest_succ⟩

theorem exact_program (n : Nat) : (program n).Exact (Derives .program) := by
  induction n with
  | zero => exact exact_spent _
  | succ n ih =>
    rw [program]
    refine (Exact.ifAtEnd (exact_pure [])
      ((readsPhrases n).block.bind fun ss => ih.map (ss ++ ·))).congr fun xs ss ys => ?_
    constructor
    · rintro (⟨rfl, rfl, rfl⟩ | ⟨-, ss, zs, h₁, ts, h₂, rfl⟩)
      · exact .noStatement
      · exact .statements h₁ h₂
    · intro h
      cases h with
      | noStatement => exact .inl ⟨rfl, rfl, rfl⟩
      | statements h₁ h₂ =>
        refine .inr ⟨?_, _, _, h₁, _, h₂, rfl⟩
        rintro rfl
        exact h₁.block_ne_nil

theorem ok_of_bind {p : Reader α} {f : α → Reader β} {t rest : Tape} {b : β}
    (h : (p >>= f) t = .ok b rest) : ∃ a mid, p t = .ok a mid ∧ f a mid = .ok b rest := by
  cases hpt : p t with
  | ok a mid =>
    rw [bind_of_ok f hpt] at h
    exact ⟨a, mid, rfl, h⟩
  | error e =>
    rw [bind_of_error f hpt] at h
    cases h
  | spent =>
    change Reader.bind p f t = .ok b rest at h
    simp only [Reader.bind, hpt] at h
    cases h

/-- A program is read up to a proper end only. -/
theorem ending_of_program {n : Nat} {t rest : Tape} {ss : List Rule}
    (h : program n t = .ok ss rest) : ∃ stop, rest.ending = .endOfInput stop := by
  induction n generalizing t ss with
  | zero => cases h
  | succ n ih =>
    rw [program] at h
    obtain ⟨b, mid, hend, h⟩ := ok_of_bind h
    cases b with
    | true =>
      obtain ⟨_ | ⟨l, ls⟩, stop | e⟩ := t <;> cases hend
      cases h
      exact ⟨stop, rfl⟩
    | false =>
      obtain ⟨ss, mid', -, h⟩ := ok_of_bind h
      obtain ⟨ts, mid'', hrest, h⟩ := ok_of_bind h
      cases h
      exact ih hrest

end Reader

/-- A tape is read as statements exactly if it ends properly and its texts derive them. -/
theorem Tape.read_eq_ok_iff {t : Tape} {ss : List Rule} :
    t.read = .ok ss ↔ (∃ stop, t.ending = .endOfInput stop) ∧ Derives .program t.texts ss [] := by
  have hexact := Reader.exact_program (Reader.depthFor t) t
  have hread : t.read = .ok ss ↔ ∃ rest, Reader.program (Reader.depthFor t) t = .ok ss rest := by
    rw [Tape.read]
    split
    · next ts rest h => simp [h]
    · next e h => simp [h]
    · next h => exact absurd h (Reader.program_ne_spent t)
  rw [hread]
  constructor
  · rintro ⟨rest, h⟩
    obtain ⟨hending, hderives⟩ := hexact.1 ss rest h
    obtain ⟨stop, hstop⟩ := Reader.ending_of_program h
    refine ⟨⟨stop, hending.symm.trans hstop⟩, ?_⟩
    rwa [hderives.program_rest] at hderives
  · rintro ⟨⟨stop, hstop⟩, hderives⟩
    obtain ⟨rest, hok, -⟩ := hexact.2 stop ss [] hstop hderives (Reader.program_ne_spent t)
    exact ⟨rest, hok⟩

/-- A tape is refused with the fault that reading it as a program meets. -/
theorem Tape.read_eq_error_iff {t : Tape} {e : ParseError} :
    t.read = .error e ↔ Reader.program (Reader.depthFor t) t = .error e := by
  rw [Tape.read]
  split
  · next ts rest h => simp [h]
  · next e' h => simp [h]
  · next h => exact absurd h (Reader.program_ne_spent t)

theorem Rule.ofText_eq_error_iff_read {source : String} {e : ParseError} :
    Rule.ofText source = .error e ↔ (Tape.ofText source).read = .error e := by
  rw [Rule.ofText]
  cases (Tape.ofText source).read <;> simp [Except.map]

/-- A text is a rule exactly if its tape is read as the statements of that rule. -/
theorem Rule.ofText_eq_ok_iff_read {source : String} {r : Rule} :
    Rule.ofText source = .ok r ↔ ∃ ss, (Tape.ofText source).read = .ok ss ∧ r = .block ss := by
  rw [Rule.ofText]
  cases (Tape.ofText source).read <;> simp [Except.map, eq_comm]

/-- A text is a rule exactly if it has tokens up to its end and their texts derive the statements
of that rule. In particular no text with an open string is one. -/
theorem ofText_eq_ok_iff (source : String) (r : Rule) :
    Rule.ofText source = .ok r ↔
      ∃ lexemes ss, (TokenStream.ofText source).drain.1 = .ok lexemes ∧
        Derives .program (lexemes.map (·.text)) ss [] ∧ r = .block ss := by
  rw [TokenStream.drain_ofText, Rule.ofText_eq_ok_iff_read]
  constructor
  · rintro ⟨ss, hread, rfl⟩
    obtain ⟨hstop, hderives⟩ := Tape.read_eq_ok_iff.1 hread
    exact ⟨_, ss, Tape.lexemes?_eq_ok_iff.2 ⟨hstop, rfl⟩, hderives, rfl⟩
  · rintro ⟨lexemes, ss, htokens, hderives, rfl⟩
    obtain ⟨hstop, rfl⟩ := Tape.lexemes?_eq_ok_iff.1 htokens
    exact ⟨ss, Tape.read_eq_ok_iff.2 ⟨hstop, hderives⟩, rfl⟩

/-- A text is a rule exactly if it is cut into tokens up to a proper end and their texts derive the
statements of that rule. -/
theorem ofText_eq_block_iff {source : String} {ss : List Rule} :
    Rule.ofText source = .ok (.block ss) ↔
      ∃ xs, CutInto source.toList xs ∧ Derives .program xs ss [] := by
  rw [Rule.ofText_eq_ok_iff_read]
  constructor
  · rintro ⟨ss, hread, ⟨⟩⟩
    obtain ⟨hstop, hderives⟩ := Tape.read_eq_ok_iff.1 hread
    exact ⟨_, cutInto_iff.2 ⟨hstop, rfl⟩, hderives⟩
  · rintro ⟨xs, hcut, hderives⟩
    obtain ⟨hstop, rfl⟩ := cutInto_iff.1 hcut
    exact ⟨ss, Tape.read_eq_ok_iff.2 ⟨hstop, hderives⟩, rfl⟩

end ChordRules
