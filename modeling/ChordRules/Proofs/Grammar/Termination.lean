import ChordRules.Proofs.Grammar.SameTokens
import ChordRules.Proofs.Token.Remaining

/-! # Reading ends wherever it begins

A reader that may go deeper replies as before unless the other's fuel was spent, and it leaves an
end of the tape either way (`Reader.Settles`). With `Grammar.Progress` this gives that from whatever
state of a stream a phrase is read, it takes tokens or fails, and that six levels for each token
left are as deep as reading ever goes. Main statement: `TokenStream.reading_ends`. -/
namespace ChordRules

namespace Reader

inductive SettledReply (t : Tape) : Reply α → Reply α → Prop
  | ok (a : α) (n : Nat) : SettledReply t (.ok a (t.drop n)) (.ok a (t.drop n))
  | error (e : ParseError) : SettledReply t (.error e) (.error e)
  | spent (r : Reply α) : SettledReply t .spent r

/-- Going deeper, the second reader replies as the first does, unless the first's fuel is spent; and
what they leave is an end of the tape. -/
def Settles (p q : Reader α) : Prop := ∀ t, SettledReply t (p t) (q t)

/-- Where the fuel is not spent, going deeper changes nothing. -/
theorem Settles.eq_of_ne_spent {p q : Reader α} {t : Tape} (h : Settles p q) (ht : p t ≠ .spent) :
    q t = p t := by
  have hreply := h t
  generalize p t = r, q t = r' at hreply ht
  cases hreply with
  | ok | error => rfl
  | spent => exact absurd rfl ht

/-- A reader leaves an end of its tape. -/
theorem Settles.exists_drop {p q : Reader α} {t rest : Tape} {a : α} (h : Settles p q)
    (ht : p t = .ok a rest) : ∃ n, rest = t.drop n := by
  have hreply := h t
  rw [ht] at hreply
  generalize q t = r at hreply
  cases hreply with
  | ok _ n => exact ⟨n, rfl⟩

theorem SettledReply.behind {t : Tape} {m : Nat} {r r' : Reply α}
    (h : SettledReply (t.drop m) r r') : SettledReply t r r' := by
  cases h with
  | ok a n =>
    rw [Tape.drop_drop]
    exact .ok a _
  | error e => exact .error e
  | spent => exact .spent _

/-- Readers that settle do so one after the other. -/
theorem Settles.bind {p q : Reader α} {f g : α → Reader β} (h : Settles p q)
    (hfg : ∀ a, Settles (f a) (g a)) : Settles (p >>= f) (q >>= g) := by
  intro t
  change SettledReply t (Reader.bind p f t) (Reader.bind q g t)
  rw [Reader.bind, Reader.bind]
  have hreply := h t
  generalize p t = r, q t = r' at hreply
  cases hreply with
  | ok a m => exact (hfg a (t.drop m)).behind
  | error e => exact .error e
  | spent r => exact .spent _

theorem settles_pure (a : α) : Settles (Pure.pure a : Reader α) (Pure.pure a) :=
  fun _ => .ok a 0

theorem settles_fail (e : ParseError) : Settles (fail e : Reader α) (fail e) := fun _ => .error e

theorem settles_spent (p : Reader α) : Settles spent p := fun _ => .spent _

theorem Settles.map {p q : Reader α} (h : Settles p q) (f : α → β) :
    Settles (p >>= fun a => Pure.pure (f a)) (q >>= fun a => Pure.pure (f a)) :=
  h.bind fun _ => settles_pure _

theorem Settles.ite {c : Prop} [Decidable c] {p p' q q' : Reader α} (hp : Settles p p')
    (hq : Settles q q') : Settles (if c then p else q) (if c then p' else q') := by
  split
  · exact hp
  · exact hq

theorem settles_look : Settles look look := by
  rintro ⟨_ | ⟨l, ls⟩, _ | e⟩
  · exact .ok none 0
  · exact .error _
  all_goals exact .ok (some l) 0

theorem settles_lookTwo : Settles lookTwo lookTwo := by
  rintro ⟨_ | ⟨l, _ | ⟨m, ls⟩⟩, _ | e⟩
  · exact .ok none 0
  · exact .error _
  · exact .ok (some (l, none)) 0
  · exact .error _
  all_goals exact .ok (some (l, some m)) 0

theorem settles_position : Settles position position := by
  rintro ⟨_ | ⟨l, ls⟩, _ | e⟩
  · exact .ok _ 0
  · exact .error _
  all_goals exact .ok l.start 0

theorem settles_take (what : String) : Settles (take what) (take what) := by
  rintro ⟨_ | ⟨l, ls⟩, _ | e⟩
  · exact .error _
  · exact .error _
  all_goals exact .ok l 1

theorem settles_sees (x : String) : Settles (sees x) (sees x) := settles_look.map _

theorem settles_atEnd : Settles atEnd atEnd := settles_look.map _

theorem settles_expect (x : String) : Settles (expect x) (expect x) :=
  (settles_take x).bind fun _ => .ite (settles_pure _) (settles_fail _)

theorem settles_word : Settles word word := by
  refine (settles_take _).bind fun l => ?_
  cases l.classify with
  | ok r => exact settles_pure r
  | error e => exact settles_fail e

theorem settles_operator? : Settles operator? operator? := by
  refine settles_lookTwo.bind fun ahead => ?_
  rcases ahead with _ | ⟨l, m⟩
  · exact settles_pure none
  · dsimp only
    cases m.bind fun m => Operator.ofSymbol? (l.text ++ m.text) with
    | some op =>
      exact (settles_take _).bind fun _ => (settles_take _).bind fun _ => settles_pure _
    | none =>
      cases Operator.ofSymbol? l.text with
      | some op => exact (settles_take _).bind fun _ => settles_pure _
      | none => exact settles_pure none

theorem Settles.afterExpect (x : String) {p q : Reader α} (h : Settles p q) :
    Settles (expect x >>= fun _ => p) (expect x >>= fun _ => q) :=
  (settles_expect x).bind fun _ => h

theorem Settles.ifSees {x : String} {p p' q q' : Reader α} (hp : Settles p p')
    (hq : Settles q q') : Settles (sees x >>= fun b => if b then p else q)
      (sees x >>= fun b => if b then p' else q') :=
  (settles_sees x).bind fun _ => .ite hp hq

theorem Settles.ifAtEnd {p p' q q' : Reader α} (hp : Settles p p') (hq : Settles q q') :
    Settles (atEnd >>= fun b => if b then p else q) (atEnd >>= fun b => if b then p' else q') :=
  settles_atEnd.bind fun _ => .ite hp hq

structure PhrasesSettle (n m : Nat) : Prop where
  block : Settles (block n) (block m)
  blockRest : Settles (blockRest n) (blockRest m)
  statement : Settles (statement n) (statement m)
  expression : Settles (expression n) (expression m)
  operand : Settles (operand n) (operand m)
  term : Settles (term n) (term m)
  arguments : Settles (arguments n) (arguments m)
  argumentsRest : Settles (argumentsRest n) (argumentsRest m)

namespace PhrasesSettle

variable {n m : Nat}

theorem block_succ (ih : PhrasesSettle n m) :
    Settles (Reader.block (n + 1)) (Reader.block (m + 1)) := by
  rw [Reader.block, Reader.block]
  exact .ifSees (ih.blockRest.afterExpect _) (ih.statement.map _)

theorem blockRest_succ (ih : PhrasesSettle n m) :
    Settles (Reader.blockRest (n + 1)) (Reader.blockRest (m + 1)) := by
  rw [Reader.blockRest, Reader.blockRest]
  refine .ifSees ((settles_pure []).afterExpect _) (.ifAtEnd (settles_fail _) ?_)
  exact ih.block.bind fun _ => ih.blockRest.map _

theorem statement_succ (ih : PhrasesSettle n m) :
    Settles (Reader.statement (n + 1)) (Reader.statement (m + 1)) := by
  rw [Reader.statement, Reader.statement]
  refine .ifSees (.afterExpect _ (.afterExpect _ ?_)) ih.expression
  refine ih.expression.bind fun _ => .afterExpect _ (ih.block.bind fun _ => ?_)
  exact .ifSees ((ih.block.map _).afterExpect _) (settles_pure _)

theorem expression_succ (ih : PhrasesSettle n m) :
    Settles (Reader.expression (n + 1)) (Reader.expression (m + 1)) := by
  rw [Reader.expression, Reader.expression]
  refine settles_position.bind fun _ => ih.operand.bind fun _ => settles_operator?.bind fun o => ?_
  cases o with
  | none => exact settles_pure _
  | some op => exact .ite (settles_fail _) (ih.expression.map _)

theorem operand_succ (ih : PhrasesSettle n m) :
    Settles (Reader.operand (n + 1)) (Reader.operand (m + 1)) := by
  rw [Reader.operand, Reader.operand]
  refine .ifSees (.afterExpect _ (ih.expression.bind fun _ => ?_)) ih.term
  exact (settles_pure _).afterExpect _

theorem term_succ (ih : PhrasesSettle n m) :
    Settles (Reader.term (n + 1)) (Reader.term (m + 1)) := by
  rw [Reader.term, Reader.term]
  refine settles_word.bind fun r => ?_
  cases r
  case symbol name => exact .ifSees ((ih.arguments.map _).afterExpect _) (settles_pure _)
  all_goals exact settles_pure _

theorem arguments_succ (ih : PhrasesSettle n m) :
    Settles (Reader.arguments (n + 1)) (Reader.arguments (m + 1)) := by
  rw [Reader.arguments, Reader.arguments]
  refine .ifSees ((settles_pure []).afterExpect _) ?_
  exact ih.expression.bind fun _ => ih.argumentsRest.map _

theorem argumentsRest_succ (ih : PhrasesSettle n m) :
    Settles (Reader.argumentsRest (n + 1)) (Reader.argumentsRest (m + 1)) := by
  rw [Reader.argumentsRest, Reader.argumentsRest]
  refine .ifSees (.afterExpect _ ?_) ((settles_pure []).afterExpect _)
  exact ih.expression.bind fun _ => ih.argumentsRest.map _

end PhrasesSettle

/-- A reader that may go as deep as another settles with it: both go down one level at a time. -/
theorem phrasesSettle {n m : Nat} (h : n ≤ m) : PhrasesSettle n m := by
  induction n generalizing m with
  | zero => constructor <;> exact settles_spent _
  | succ n ih =>
    obtain ⟨m, rfl⟩ := Nat.exists_eq_add_of_lt h
    have hnm := ih (m := n + m) (Nat.le_add_right n m)
    exact ⟨hnm.block_succ, hnm.blockRest_succ, hnm.statement_succ, hnm.expression_succ,
      hnm.operand_succ, hnm.term_succ, hnm.arguments_succ, hnm.argumentsRest_succ⟩

theorem settles_program {n m : Nat} (h : n ≤ m) : Settles (program n) (program m) := by
  induction n generalizing m with
  | zero => exact settles_spent _
  | succ n ih =>
    obtain ⟨m, rfl⟩ := Nat.exists_eq_add_of_lt h
    have hle := Nat.le_add_right n m
    rw [program, program]
    exact .ifAtEnd (settles_pure []) ((phrasesSettle hle).block.bind fun _ => (ih hle).map _)

end Reader

namespace Phrase

def reader : (p : Phrase) → Nat → Reader p.Tree
  | .program => Reader.program
  | .block => Reader.block
  | .blockRest => Reader.blockRest
  | .statement => Reader.statement
  | .expression => Reader.expression
  | .operand => Reader.operand
  | .term => Reader.term
  | .arguments => Reader.arguments
  | .argumentsRest => Reader.argumentsRest

theorem settles (p : Phrase) {n m : Nat} (h : n ≤ m) :
    (p.reader n).Settles (p.reader m) := by
  have hphrases := Reader.phrasesSettle h
  cases p with
  | program => exact Reader.settles_program h
  | block => exact hphrases.block
  | blockRest => exact hphrases.blockRest
  | statement => exact hphrases.statement
  | expression => exact hphrases.expression
  | operand => exact hphrases.operand
  | term => exact hphrases.term
  | arguments => exact hphrases.arguments
  | argumentsRest => exact hphrases.argumentsRest

/-- Every phrase but a whole program takes a token. -/
theorem takes {p : Phrase} (hp : p ≠ .program) {n m : Nat} (h : 6 * m + 6 ≤ n) :
    (p.reader n).Takes 1 m := by
  have hdeep := Reader.deepEnough n m
  cases p with
  | program => exact absurd rfl hp
  | block => exact hdeep.block (by omega)
  | blockRest => exact hdeep.blockRest h
  | statement => exact hdeep.statement (by omega)
  | expression => exact hdeep.expression (by omega)
  | operand => exact hdeep.operand (by omega)
  | term => exact hdeep.term (by omega)
  | arguments => exact hdeep.arguments (by omega)
  | argumentsRest => exact hdeep.argumentsRest (by omega)

/-- Six levels for each token are enough, and six more. -/
theorem reader_ne_spent (p : Phrase) {n : Nat} {t : Tape} (h : 6 * t.size + 6 ≤ n) :
    p.reader n t ≠ .spent := by
  by_cases hp : p = .program
  · subst hp
    exact (Reader.takes_program n t.size h t (Nat.le_refl _)).1
  · exact (takes hp h t (Nat.le_refl _)).1

end Phrase

/-- Reading what is left of a stream fails, or it takes tokens off the stream: it leaves what is
left behind them, which is less. -/
def Reader.GetsOn (p : Reader α) (s : TokenStream) : Prop :=
  (∃ e, p s.tape = .error e) ∨
    ∃ a n, p s.tape = .ok a (s.popped n).tape ∧ (s.popped n).left < s.left

/-- Where nothing is left, reading on fails. -/
theorem Reader.GetsOn.exists_error {p : Reader α} {s : TokenStream} (h : p.GetsOn s)
    (hleft : s.left = 0) : ∃ e, p s.tape = .error e := by
  rcases h with herror | ⟨a, n, -, hless⟩
  · exact herror
  · omega

namespace TokenStream

/-- A reader that takes a token from a tape takes it off the stream. No stream gives more lexemes
than are left, so the count is cut to these. -/
theorem Shows.getsOn {s : TokenStream} {o : Supply} (h : s.Shows o) {p q : Reader α}
    (htakes : p.Takes 1 s.left) (hsettles : p.Settles q) : p.GetsOn s := by
  obtain ⟨hspent, hless⟩ := htakes s.tape (Nat.le_of_eq s.size_tape)
  cases hread : p s.tape with
  | spent => exact absurd hread hspent
  | error e => exact .inl ⟨e, hread⟩
  | ok a rest =>
    obtain ⟨n, rfl⟩ := hsettles.exists_drop hread
    have hsize := hless a _ hread
    rw [← Tape.drop_min, size_tape, ← h.tape_popped (Nat.min_le_right _ _)] at hread hsize
    rw [size_tape] at hsize
    exact .inr ⟨a, _, hread, hsize⟩

/-- A text is read as its tape is, however deep the reader may go beyond what is enough. -/
theorem program_ofText {source : String} {n : Nat} (h : 6 * (ofText source).left + 6 ≤ n) :
    (∃ ss rest, Reader.program n (ofText source).tape = .ok ss rest ∧
      Rule.ofText source = .ok (.block ss)) ∨
    ∃ e, Reader.program n (ofText source).tape = .error e ∧ Rule.ofText source = .error e := by
  have hdeep : Reader.depthFor (Tape.ofText source) ≤ n := by
    rwa [← size_tape, tape_ofText] at h
  have hspent := Reader.program_ne_spent (Tape.ofText source)
  rw [tape_ofText, (Reader.settles_program hdeep).eq_of_ne_spent hspent]
  cases hread : Reader.program (Reader.depthFor (Tape.ofText source)) (Tape.ofText source) with
  | spent => exact absurd hread hspent
  | error e =>
    exact .inr ⟨e, rfl, Rule.ofText_eq_error_iff_read.2 (Tape.read_eq_error_iff.2 hread)⟩
  | ok ss rest =>
    exact .inl ⟨ss, rest, rfl, Rule.ofText_eq_ok_iff_read.2 ⟨ss, Tape.read_of_ok hread, rfl⟩⟩

/-- Take any stream that steps on a text lead to, steps that failed among them. The readers of
single tokens do its steps on what is left of it, and looking ahead leaves as much as there was.
Every phrase but a whole program, and every word, fails or leaves less, so it fails where nothing
is left. Six levels for each lexeme left and six more are as deep as any phrase goes: with these no
reader's fuel is spent, and with more it replies the same. So every text is answered, by the same
rule or the same fault however deep the reader may go. -/
theorem reading_ends (source : String) (steps : List Step) :
    let s := (ofText source).after steps
    let enough := 6 * s.left + 6
    s.FeedsReaders ∧ (∀ n, (s.peek n).2.left = s.left) ∧
    (∀ (p : Phrase) n, p ≠ .program → enough ≤ n → (p.reader n).GetsOn s) ∧
    Reader.word.GetsOn s ∧
    (s.left = 0 →
      (∀ (p : Phrase) n, p ≠ .program → enough ≤ n → ∃ e, p.reader n s.tape = .error e) ∧
        ∃ e, Reader.word s.tape = .error e) ∧
    (∀ (p : Phrase) n, enough ≤ n →
      p.reader n s.tape ≠ .spent ∧ p.reader n s.tape = p.reader enough s.tape) ∧
    (∀ n, 6 * (ofText source).left + 6 ≤ n →
      (∃ ss rest, Reader.program n (ofText source).tape = .ok ss rest ∧
        Rule.ofText source = .ok (.block ss)) ∨
      ∃ e, Reader.program n (ofText source).tape = .error e ∧ Rule.ofText source = .error e) := by
  intro s enough
  obtain ⟨o, hshows⟩ := exists_shows_after source steps
  have hphrases : ∀ (p : Phrase) n, p ≠ .program → enough ≤ n → (p.reader n).GetsOn s :=
    fun p n hp hn => hshows.getsOn (Phrase.takes hp hn) (p.settles (Nat.le_refl n))
  have hword : Reader.word.GetsOn s := hshows.getsOn (Reader.takes_word _) Reader.settles_word
  have henough : 6 * s.tape.size + 6 ≤ enough := Nat.le_of_eq (by rw [size_tape])
  refine ⟨hshows.feedsReaders, hshows.left_peek, hphrases, hword, fun hleft => ⟨?_, ?_⟩, ?_,
    fun n hn => program_ofText hn⟩
  · exact fun p n hp hn => (hphrases p n hp hn).exists_error hleft
  · exact hword.exists_error hleft
  · intro p n hn
    have hspent := p.reader_ne_spent henough
    have hsame := (p.settles hn).eq_of_ne_spent hspent
    exact ⟨hsame ▸ hspent, hsame⟩

/-- The lexemes before an open string are still there after looking too far ahead. A statement is
read from them, and then nothing is left to read. -/
theorem reading_ends_looked_ahead :
    let s := (ofText "a = 1 \"b").after [.peek 9]
    s.left = 3 ∧ (∃ n, Reader.statement 24 s.tape =
      .ok (.binary .assign (.symbol "a") (.number 1)) (s.popped n).tape ∧ (s.popped n).left < 3) ∧
    ((ofText "a = 1 \"b").after [.peek 9, .pop, .pop, .pop]).left = 0 ∧
    ∃ e, Reader.block 6 ((ofText "a = 1 \"b").after [.peek 9, .pop, .pop, .pop]).tape =
      .error e := by
  intro s
  have hleft : s.left = 3 := by decide +kernel
  have htape : s.tape =
      ⟨[⟨"a", ⟨1, 1⟩⟩, ⟨"=", ⟨1, 3⟩⟩, ⟨"1", ⟨1, 5⟩⟩], .endOfInput ⟨1, 9⟩⟩ := by decide +kernel
  have hnone : ((ofText "a = 1 \"b").after [.peek 9, .pop, .pop, .pop]).left = 0 := by
    decide +kernel
  obtain ⟨-, -, hphrases, -⟩ := reading_ends "a = 1 \"b" [.peek 9]
  obtain ⟨-, -, -, -, hfails, -⟩ := reading_ends "a = 1 \"b" [.peek 9, .pop, .pop, .pop]
  refine ⟨hleft, ?_, hnone, (hfails hnone).1 .block 6 nofun (Nat.le_of_eq (by rw [hnone]))⟩
  have hread : Reader.statement 24 s.tape =
      .ok (.binary .assign (.symbol "a") (.number 1)) ⟨[], .endOfInput ⟨1, 9⟩⟩ := by
    rw [htape]
    rfl
  have hgetsOn : (Reader.statement 24).GetsOn s :=
    hphrases .statement 24 nofun (Nat.le_of_eq (by rw [hleft]))
  rcases hgetsOn with ⟨e, herror⟩ | ⟨a, n, hok, hless⟩
  · rw [hread] at herror
    cases herror
  · obtain ⟨rfl, -⟩ := Reply.ok.inj (hread.symm.trans hok)
    exact ⟨n, hok, hleft ▸ hless⟩

end TokenStream
end ChordRules
