import ChordRules.Proofs.Grammar.Acceptance
import Mathlib.Data.List.Forall2

/-! # Texts with the same tokens

Two texts may differ in blanks, comments and line breaks and still have the same tokens. They are
read in step here: at every moment the same tokens are left of both, each in a place of its own. So
they give the same rule, or they fail alike, each at its own place of one and the same token. Main
statement: `ofText_sameTokens`. -/
namespace ChordRules

structure SameToken (ls ms : List Lexeme) (l m : Lexeme) : Prop where
  text : m.text = l.text
  index : ∃ k : Nat, ls[k]? = some l ∧ ms[k]? = some m

/-- Faults of one kind that tell the same texts. If they have a place, each has that of the token at
one index in its own row; and where they tell the text of a token, it is that one. -/
inductive SameFault (ls ms : List Lexeme) : ParseError → ParseError → Prop
  | unexpectedEnd (what : String) : SameFault ls ms (.unexpectedEnd what) (.unexpectedEnd what)
  | expected (what : String) {l m : Lexeme} (h : SameToken ls ms l m) :
      SameFault ls ms (.expected what l.text l.start) (.expected what l.text m.start)
  | invalidName (fault : NameFault) {l m : Lexeme} (h : SameToken ls ms l m) :
      SameFault ls ms (.invalidName l.text fault l.start) (.invalidName l.text fault m.start)
  | numberOutOfRange {l m : Lexeme} (h : SameToken ls ms l m) :
      SameFault ls ms (.numberOutOfRange l.text l.start) (.numberOutOfRange l.text m.start)
  | notAssignable (target : String) {l m : Lexeme} (h : SameToken ls ms l m) :
      SameFault ls ms (.notAssignable target l.start) (.notAssignable target m.start)

namespace Reader

structure Level (ls ms : List Lexeme) (t u : Tape) : Prop where
  lexemes : List.Forall₂ (SameToken ls ms) t.lexemes u.lexemes
  ending_left : ∃ p, t.ending = .endOfInput p
  ending_right : ∃ q, u.ending = .endOfInput q

/-- Replies with related values and the same tokens left, or with the same fault. -/
inductive SameReply (ls ms : List Lexeme) (V : α → β → Prop) : Reply α → Reply β → Prop
  | ok {a : α} {b : β} {t u : Tape} (value : V a b) (rest : Level ls ms t u) :
      SameReply ls ms V (.ok a t) (.ok b u)
  | error {e f : ParseError} (fault : SameFault ls ms e f) : SameReply ls ms V (.error e) (.error f)
  | spent : SameReply ls ms V .spent .spent

def InStep (ls ms : List Lexeme) (V : α → β → Prop) (p : Reader α) (q : Reader β) : Prop :=
  ∀ t u, Level ls ms t u → SameReply ls ms V (p t) (q u)

variable {ls ms : List Lexeme}

/-- What goes on from replies that are alike. That the first one is a success is kept, for the
readers that never are successful at the end of the input. -/
theorem SameReply.bind {p : Reader α} {q : Reader β} {f : α → Reader γ} {g : β → Reader δ}
    {V : α → β → Prop} {W : γ → δ → Prop} {t u : Tape} (h : SameReply ls ms V (p t) (q u))
    (hfg : ∀ a b t' u', p t = .ok a t' → V a b → Level ls ms t' u' →
      SameReply ls ms W (f a t') (g b u')) :
    SameReply ls ms W ((p >>= f) t) ((q >>= g) u) := by
  change SameReply ls ms W (Reader.bind p f t) (Reader.bind q g u)
  rw [Reader.bind, Reader.bind]
  generalize hp : p t = r, q u = s at h
  cases h with
  | ok value rest => exact hfg _ _ _ _ hp value rest
  | error fault => exact .error fault
  | spent => exact .spent

theorem InStep.bind {p : Reader α} {q : Reader β} {f : α → Reader γ} {g : β → Reader δ}
    {V : α → β → Prop} {W : γ → δ → Prop} (h : InStep ls ms V p q)
    (hfg : ∀ a b, V a b → InStep ls ms W (f a) (g b)) : InStep ls ms W (p >>= f) (q >>= g) :=
  fun t u htu => (h t u htu).bind fun a b t' u' _ hab hrest => hfg a b hab t' u' hrest

/-- What follows on equal values. -/
theorem InStep.andThen {p : Reader α} {q : Reader α} {f g : α → Reader β} {W : β → β → Prop}
    (h : InStep ls ms Eq p q) (hfg : ∀ a, InStep ls ms W (f a) (g a)) :
    InStep ls ms W (p >>= f) (q >>= g) :=
  h.bind fun a _ hab => hab ▸ hfg a

theorem inStep_pure {V : α → β → Prop} {a : α} {b : β} (h : V a b) :
    InStep ls ms V (Pure.pure a) (Pure.pure b) :=
  fun _ _ htu => .ok h htu

theorem inStep_fail {V : α → β → Prop} {e f : ParseError} (h : SameFault ls ms e f) :
    InStep ls ms V (fail e) (fail f) :=
  fun _ _ _ => .error h

theorem inStep_spent {V : α → β → Prop} : InStep ls ms V (spent : Reader α) (spent : Reader β) :=
  fun _ _ _ => .spent

theorem InStep.map {p q : Reader α} (h : InStep ls ms Eq p q) (f : α → β) :
    InStep ls ms Eq (p >>= fun a => Pure.pure (f a)) (q >>= fun a => Pure.pure (f a)) :=
  h.andThen fun _ => inStep_pure rfl

/-- Either nothing is left of both tapes, or the same token is next. -/
theorem Level.cases {t u : Tape} (h : Level ls ms t u) :
    (∃ p q, t = ⟨[], .endOfInput p⟩ ∧ u = ⟨[], .endOfInput q⟩) ∨
    ∃ l m ls' ms' p q, t = ⟨l :: ls', .endOfInput p⟩ ∧ u = ⟨m :: ms', .endOfInput q⟩ ∧
      SameToken ls ms l m ∧ Level ls ms ⟨ls', .endOfInput p⟩ ⟨ms', .endOfInput q⟩ := by
  obtain ⟨lexemes, ending⟩ := t
  obtain ⟨lexemes', ending'⟩ := u
  obtain ⟨hlexemes, ⟨p, hp⟩, q, hq⟩ := h
  cases hp
  cases hq
  cases hlexemes with
  | nil => exact .inl ⟨p, q, rfl, rfl⟩
  | cons hlm hrest => exact .inr ⟨_, _, _, _, p, q, rfl, rfl, hlm, hrest, ⟨p, rfl⟩, q, rfl⟩

theorem inStep_look : InStep ls ms (Option.Rel (SameToken ls ms)) look look := by
  intro t u h
  rcases h.cases with ⟨p, q, rfl, rfl⟩ | ⟨l, m, ls', ms', p, q, rfl, rfl, hlm, -⟩
  · exact .ok .none h
  · exact .ok (.some hlm) h

/-- The next token of both tapes has the same text. -/
theorem inStep_take (what : String) : InStep ls ms (SameToken ls ms) (take what) (take what) := by
  intro t u h
  rcases h.cases with ⟨p, q, rfl, rfl⟩ | ⟨l, m, ls', ms', p, q, rfl, rfl, hlm, hrest⟩
  · exact .error (.unexpectedEnd what)
  · exact .ok hlm hrest

theorem inStep_sees (x : String) : InStep ls ms Eq (sees x) (sees x) := by
  refine inStep_look.bind fun a b hab => inStep_pure ?_
  cases hab with
  | none => rfl
  | some hlm => simp [hlm.text]

theorem inStep_atEnd : InStep ls ms Eq atEnd atEnd := by
  refine inStep_look.bind fun a b hab => inStep_pure ?_
  cases hab <;> rfl

theorem inStep_expect (x : String) : InStep ls ms Eq (expect x) (expect x) := by
  refine (inStep_take x).bind fun l m hlm => ?_
  rw [hlm.text]
  split
  · exact inStep_pure rfl
  · exact inStep_fail (.expected x hlm)

theorem InStep.afterExpect (x : String) {p q : Reader α} {V : α → α → Prop}
    (h : InStep ls ms V p q) :
    InStep ls ms V (expect x >>= fun _ => p) (expect x >>= fun _ => q) :=
  (inStep_expect x).andThen fun _ => h

theorem InStep.ifSees {x : String} {p p' q q' : Reader α} {V : α → α → Prop}
    (hp : InStep ls ms V p p') (hq : InStep ls ms V q q') :
    InStep ls ms V (sees x >>= fun b => if b then p else q)
      (sees x >>= fun b => if b then p' else q') := by
  refine (inStep_sees x).andThen fun b => ?_
  cases b
  · exact hq
  · exact hp

theorem InStep.ifAtEnd {p p' q q' : Reader α} {V : α → α → Prop}
    (hp : InStep ls ms V p p') (hq : InStep ls ms V q q') :
    InStep ls ms V (atEnd >>= fun b => if b then p else q)
      (atEnd >>= fun b => if b then p' else q') := by
  refine inStep_atEnd.andThen fun b => ?_
  cases b
  · exact hq
  · exact hp

/-- One token stands for the same in both texts, or is refused alike. -/
theorem inStep_word : InStep ls ms Eq word word := by
  refine (inStep_take "expression").bind fun l m hlm => ?_
  simp only [Lexeme.classify, hlm.text]
  cases unquoted? l.text.toList with
  | some s => exact inStep_pure rfl
  | none =>
    by_cases hnumeral : isCanonicalNumeral l.text.toList = true
    · by_cases hlimit : readDigits l.text.toList < numeralLimit
      · simp only [hnumeral, hlimit, if_true]
        exact inStep_pure rfl
      · simp only [hnumeral, hlimit, if_true, if_false]
        exact inStep_fail (.numberOutOfRange hlm)
    · simp only [hnumeral]
      cases nameFault? l.text with
      | none => exact inStep_pure rfl
      | some fault => exact inStep_fail (.invalidName fault hlm)

theorem inStep_lookTwo :
    InStep ls ms (Option.Rel fun a b => SameToken ls ms a.1 b.1 ∧
      Option.Rel (SameToken ls ms) a.2 b.2) lookTwo lookTwo := by
  intro t u h
  rcases h.cases with ⟨p, q, rfl, rfl⟩ | ⟨l, m, ls', ms', p, q, rfl, rfl, hlm, hrest⟩
  · exact .ok .none h
  · rcases hrest.cases with ⟨_, _, ⟨⟩, ⟨⟩⟩ | ⟨l', m', _, _, _, _, ⟨⟩, ⟨⟩, hlm', -⟩
    · exact .ok (.some ⟨hlm, .none⟩) h
    · exact .ok (.some ⟨hlm, .some hlm'⟩) h

/-- An operator is read from texts alone, so both readers read the same one. -/
theorem inStep_operator? : InStep ls ms Eq operator? operator? := by
  refine inStep_lookTwo.bind fun a b hab => ?_
  cases hab with
  | none => exact inStep_pure rfl
  | @some a b hab =>
    obtain ⟨l, l'?⟩ := a
    obtain ⟨m, m'?⟩ := b
    obtain ⟨hlm, hlm'⟩ : SameToken ls ms l m ∧ Option.Rel (SameToken ls ms) l'? m'? := hab
    have hpair : (l'?.bind fun l' => Operator.ofSymbol? (l.text ++ l'.text)) =
        m'?.bind fun m' => Operator.ofSymbol? (l.text ++ m'.text) := by
      cases hlm' with
      | none => rfl
      | some hlm' => simp only [Option.bind_some, hlm'.text]
    simp only [hlm.text, ← hpair]
    split
    · next op _ =>
      exact (inStep_take _).bind fun _ _ _ => (inStep_take _).bind fun _ _ _ => inStep_pure rfl
    · split
      · exact (inStep_take _).bind fun _ _ _ => inStep_pure rfl
      · exact inStep_pure rfl

structure PhrasesInStep (ls ms : List Lexeme) (n : Nat) : Prop where
  block : InStep ls ms Eq (block n) (block n)
  blockRest : InStep ls ms Eq (blockRest n) (blockRest n)
  statement : InStep ls ms Eq (statement n) (statement n)
  expression : InStep ls ms Eq (expression n) (expression n)
  operand : InStep ls ms Eq (operand n) (operand n)
  term : InStep ls ms Eq (term n) (term n)
  arguments : InStep ls ms Eq (arguments n) (arguments n)
  argumentsRest : InStep ls ms Eq (argumentsRest n) (argumentsRest n)

variable {n : Nat}

theorem PhrasesInStep.block_succ (ih : PhrasesInStep ls ms n) :
    InStep ls ms Eq (Reader.block (n + 1)) (Reader.block (n + 1)) := by
  rw [Reader.block]
  exact .ifSees (ih.blockRest.afterExpect _) (ih.statement.map _)

theorem PhrasesInStep.blockRest_succ (ih : PhrasesInStep ls ms n) :
    InStep ls ms Eq (Reader.blockRest (n + 1)) (Reader.blockRest (n + 1)) := by
  rw [Reader.blockRest]
  refine .ifSees ((inStep_pure rfl).afterExpect _) (.ifAtEnd ?_ ?_)
  · exact inStep_fail (.unexpectedEnd _)
  · exact ih.block.andThen fun ss => ih.blockRest.map _

theorem PhrasesInStep.statement_succ (ih : PhrasesInStep ls ms n) :
    InStep ls ms Eq (Reader.statement (n + 1)) (Reader.statement (n + 1)) := by
  rw [Reader.statement]
  refine .ifSees (.afterExpect _ (.afterExpect _ ?_)) ih.expression
  refine ih.expression.andThen fun c => .afterExpect _ ?_
  refine ih.block.andThen fun ss => .ifSees ?_ (inStep_pure rfl)
  exact (ih.block.map _).afterExpect _

/-- The end of the input is no operand. -/
theorem operand_nil_ne_ok (n : Nat) (ending : Ending) (r : Rule) (rest : Tape) :
    operand n ⟨[], ending⟩ ≠ .ok r rest := by
  intro h
  obtain ⟨-, hderives⟩ := ((readsPhrases n).operand ⟨[], ending⟩).1 r rest h
  obtain ⟨x, xs, hxs, -⟩ := hderives.head_operand
  cases hxs

theorem PhrasesInStep.expression_succ (ih : PhrasesInStep ls ms n) :
    InStep ls ms Eq (Reader.expression (n + 1)) (Reader.expression (n + 1)) := by
  intro t u h
  rw [Reader.expression]
  rcases h.cases with ⟨p, q, rfl, rfl⟩ | ⟨l, m, ls', ms', p, q, rfl, rfl, hlm, -⟩
  · rw [bind_of_ok (p := position) _ rfl, bind_of_ok (p := position) _ rfl]
    exact (ih.operand _ _ h).bind fun a b t' u' hok => absurd hok (operand_nil_ne_ok n _ a t')
  · rw [bind_of_ok (p := position) _ rfl, bind_of_ok (p := position) _ rfl]
    refine (ih.operand.andThen fun left => inStep_operator?.andThen fun o => ?_) _ _ h
    cases o with
    | none => exact inStep_pure rfl
    | some op =>
      by_cases hassign : op = .assign ∧ left.isSymbol = false
      · simp only [hassign, and_self, if_true]
        exact inStep_fail (.notAssignable _ hlm)
      · simp only [hassign, if_false]
        exact ih.expression.map _

theorem PhrasesInStep.operand_succ (ih : PhrasesInStep ls ms n) :
    InStep ls ms Eq (Reader.operand (n + 1)) (Reader.operand (n + 1)) := by
  rw [Reader.operand]
  refine .ifSees (.afterExpect _ ?_) ih.term
  exact ih.expression.andThen fun r => .afterExpect _ (inStep_pure rfl)

theorem PhrasesInStep.term_succ (ih : PhrasesInStep ls ms n) :
    InStep ls ms Eq (Reader.term (n + 1)) (Reader.term (n + 1)) := by
  rw [Reader.term]
  refine inStep_word.andThen fun w => ?_
  cases w
  case symbol name => exact .ifSees ((ih.arguments.map _).afterExpect _) (inStep_pure rfl)
  all_goals exact inStep_pure rfl

theorem PhrasesInStep.arguments_succ (ih : PhrasesInStep ls ms n) :
    InStep ls ms Eq (Reader.arguments (n + 1)) (Reader.arguments (n + 1)) := by
  rw [Reader.arguments]
  refine .ifSees ((inStep_pure rfl).afterExpect _) ?_
  exact ih.expression.andThen fun a => ih.argumentsRest.map _

theorem PhrasesInStep.argumentsRest_succ (ih : PhrasesInStep ls ms n) :
    InStep ls ms Eq (Reader.argumentsRest (n + 1)) (Reader.argumentsRest (n + 1)) := by
  rw [Reader.argumentsRest]
  refine .ifSees (.afterExpect _ ?_) ((inStep_pure rfl).afterExpect _)
  exact ih.expression.andThen fun a => ih.argumentsRest.map _

/-- All readers of phrases go in step, by one induction on the fuel. -/
theorem phrasesInStep (n : Nat) : PhrasesInStep ls ms n := by
  induction n with
  | zero => constructor <;> exact inStep_spent
  | succ n ih =>
    exact ⟨ih.block_succ, ih.blockRest_succ, ih.statement_succ, ih.expression_succ,
      ih.operand_succ, ih.term_succ, ih.arguments_succ, ih.argumentsRest_succ⟩

/-- Programs of the same tokens are read alike. -/
theorem inStep_program (n : Nat) : InStep ls ms Eq (program n) (program n) := by
  induction n with
  | zero => exact inStep_spent
  | succ n ih =>
    rw [program]
    exact .ifAtEnd (inStep_pure rfl) ((phrasesInStep n).block.andThen fun ss => ih.map _)

end Reader

theorem Tape.read_of_ok {t rest : Tape} {ss : List Rule}
    (h : Reader.program (Reader.depthFor t) t = .ok ss rest) : t.read = .ok ss := by
  rw [Tape.read]
  split <;> simp_all

theorem Tape.read_of_error {t : Tape} {e : ParseError}
    (h : Reader.program (Reader.depthFor t) t = .error e) : t.read = .error e := by
  rw [Tape.read]
  split <;> simp_all

/-- Each token of a row is the same as the one at its index in a row with the same texts. -/
theorem forall₂_sameToken {ls ms : List Lexeme} (h : ls.map (·.text) = ms.map (·.text)) :
    List.Forall₂ (SameToken ls ms) ls ms := by
  have hlength : ls.length = ms.length := by simpa using congrArg List.length h
  refine List.forall₂_iff_get.2 ⟨hlength, fun k hk hk' => ⟨?_, k, by simp, by simp⟩⟩
  have htext := congrArg (·[k]?) h
  simpa [hk, hk'] using htext.symm

/-- Texts that have the same tokens up to their ends, wherever these stand, are the same rule, or no
rule for the same reason. Then the same texts are told, and the place told for either text is that
of the token at one index. -/
theorem ofText_sameTokens {source₁ source₂ : String} {ls ms : List Lexeme}
    (h₁ : (TokenStream.ofText source₁).drain.1 = .ok ls)
    (h₂ : (TokenStream.ofText source₂).drain.1 = .ok ms)
    (htexts : ls.map (·.text) = ms.map (·.text)) :
    (∃ r, Rule.ofText source₁ = .ok r ∧ Rule.ofText source₂ = .ok r) ∨
    ∃ e f, Rule.ofText source₁ = .error e ∧ Rule.ofText source₂ = .error f ∧
      SameFault ls ms e f := by
  rw [TokenStream.drain_ofText, Tape.lexemes?_eq_ok_iff] at h₁ h₂
  obtain ⟨hend₁, rfl⟩ := h₁
  obtain ⟨hend₂, rfl⟩ := h₂
  have hsame := forall₂_sameToken htexts
  have hdepth : Reader.depthFor (Tape.ofText source₁) = Reader.depthFor (Tape.ofText source₂) := by
    rw [Reader.depthFor, Reader.depthFor, Tape.size, Tape.size, hsame.length_eq]
  have hreply := Reader.inStep_program (Reader.depthFor (Tape.ofText source₁)) _ _
    ⟨hsame, hend₁, hend₂⟩
  generalize hread₁ : Reader.program _ (Tape.ofText source₁) = reply₁ at hreply
  rw [hdepth] at hreply
  generalize hread₂ : Reader.program _ (Tape.ofText source₂) = reply₂ at hreply
  cases hreply with
  | @ok ss _ _ _ value =>
    subst value
    refine .inl ⟨.block ss, ?_, ?_⟩
    · rw [Rule.ofText, Tape.read_of_ok hread₁]
      rfl
    · rw [Rule.ofText, Tape.read_of_ok hread₂]
      rfl
  | @error e f fault =>
    refine .inr ⟨e, f, ?_, ?_, fault⟩
    · rw [Rule.ofText, Tape.read_of_error hread₁]
      rfl
    · rw [Rule.ofText, Tape.read_of_error hread₂]
      rfl
  | spent => exact absurd hread₂ (Reader.program_ne_spent _)

/-- A keyword that stands as a name is refused in both texts, where each of them has it. -/
theorem ofText_sameTokens_reserved :
    ∃ ls ms, (TokenStream.ofText "x = if").drain.1 = .ok ls ∧
      (TokenStream.ofText " x # set\n =\n  if").drain.1 = .ok ms ∧
      ls.map (·.text) = ms.map (·.text) ∧
      Rule.ofText "x = if" = .error (.invalidName "if" .reserved ⟨1, 5⟩) ∧
      Rule.ofText " x # set\n =\n  if" = .error (.invalidName "if" .reserved ⟨3, 3⟩) := by
  let ls : List Lexeme := [⟨"x", ⟨1, 1⟩⟩, ⟨"=", ⟨1, 3⟩⟩, ⟨"if", ⟨1, 5⟩⟩]
  let ms : List Lexeme := [⟨"x", ⟨1, 2⟩⟩, ⟨"=", ⟨2, 2⟩⟩, ⟨"if", ⟨3, 3⟩⟩]
  have hls : (TokenStream.ofText "x = if").drain.1 = .ok ls := by decide +kernel
  have hms : (TokenStream.ofText " x # set\n =\n  if").drain.1 = .ok ms := by decide +kernel
  have htape : Tape.ofText "x = if" = ⟨ls, .endOfInput ⟨1, 7⟩⟩ := by decide +kernel
  have hread : Rule.ofText "x = if" = .error (.invalidName "if" .reserved ⟨1, 5⟩) := by
    rw [Rule.ofText, htape]
    rfl
  refine ⟨ls, ms, hls, hms, rfl, hread, ?_⟩
  rcases ofText_sameTokens hls hms rfl with ⟨r, hr, -⟩ | ⟨e, f, he, hf, hfault⟩
  · exact absurd (hread.symm.trans hr) (by simp)
  · cases hread.symm.trans he
    generalize hstart : Position.mk 1 5 = start at hfault
    generalize htext : "if" = text at hfault
    cases hfault with
    | @invalidName _ l m h =>
      obtain ⟨k, hl, hm⟩ := h.index
      rcases k with _ | _ | _ | k <;> cases hl
      · exact absurd htext (by decide)
      · exact absurd htext (by decide)
      · cases hm
        exact hf

end ChordRules
