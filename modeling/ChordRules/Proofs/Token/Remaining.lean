import ChordRules.Grammar.Progress
import ChordRules.Proofs.Token.Lookahead

/-! # What is left of a stream

What a stream has still to give are the lexemes that wait and those that are not cut yet. Together
they are a tape (`TokenStream.tape`). Looking ahead only lets more of them wait and leaves as many
as there were, also where it fails (`Shows.left_peek`), and taking a token takes the first of them
(`Shows.tape_popped`). So the readers of single tokens do to the tape what the stream does in a step
(`Shows.feedsReaders`). -/
namespace ChordRules

namespace Tape

def drop (n : Nat) (t : Tape) : Tape := { t with lexemes := t.lexemes.drop n }

theorem drop_drop (m n : Nat) (t : Tape) : (t.drop m).drop n = t.drop (m + n) := by
  simp only [drop, List.drop_drop]

/-- Nothing is left behind the last lexeme. -/
theorem drop_min (n : Nat) (t : Tape) : t.drop (min n t.size) = t.drop n := by
  rcases Nat.le_total n t.size with h | h
  · rw [Nat.min_eq_left h]
  · rw [Nat.min_eq_right h, drop, drop, size, List.drop_length, List.drop_eq_nil_of_le h]

end Tape

namespace Supply

def tape (o : Supply) : Tape := ⟨o.lexemes, o.fault.elim (.endOfInput o.stop) .unclosed⟩

theorem tape_drop {o : Supply} {n : Nat} (h : n ≤ o.lexemes.length) :
    (o.drop n).tape = o.tape.drop n := by
  simp only [tape, drop, Tape.drop, h, if_true]

variable {o : Supply}

theorem tape_of_lexeme {l : Lexeme} (h : o.element 0 = .ok (.lexeme l)) :
    o.tape = (o.drop 1).tape.cons l := by
  have hlexemes := (cons_of_lexeme h).1
  have hlength : 1 ≤ o.lexemes.length := by
    rw [hlexemes]
    exact Nat.succ_pos _
  rw [tape_drop hlength, Tape.cons, Tape.drop, tape, hlexemes]
  rfl

/-- At the end of the input nothing is left. -/
theorem eq_of_end {p : Position} (h : o.element 0 = .ok (.endOfInput p)) :
    o = ⟨[], none, p⟩ := by
  obtain ⟨lexemes, fault, stop⟩ := o
  cases lexemes_eq_nil_of_end h
  cases fault <;> cases h
  rfl

theorem tape_of_error {e : UnclosedString} (h : o.element 0 = .error e) :
    o.tape = ⟨[], .unclosed e⟩ := by
  obtain ⟨hlength, hfault⟩ := element_eq_error h
  rw [tape, hfault, List.length_eq_zero_iff.1 hlength.symm]
  rfl

end Supply

/-- Cutting everything from a cursor on gives what it supplies. -/
theorem Tape.ofCursor_eq_tape (k : Cursor) : Tape.ofCursor k = k.supply.tape := by
  have hnext := k.next_supply
  fun_induction Tape.ofCursor k with
  | case1 k e k' h =>
    rw [h] at hnext
    exact (Supply.tape_of_error hnext.1.symm).symm
  | case2 k p k' h =>
    rw [h] at hnext
    rw [Supply.eq_of_end hnext.1.symm]
    rfl
  | case3 k l k' h ih =>
    rw [h] at hnext
    rw [Supply.tape_of_lexeme hnext.1.symm, ← hnext.2, ih k'.next_supply]

def Token.lexeme? : Token → Option Lexeme
  | .lexeme l => some l
  | .endOfInput _ => none

namespace TokenStream

/-- How many lexemes a stream has still to give: those that wait, and those that are not cut yet. -/
def left (s : TokenStream) : Nat :=
  s.waiting.countP (·.lexeme?.isSome) + (Tape.ofCursor s.cursor).size

/-- The lexemes that a stream has still to give, and how they end. -/
def tape (s : TokenStream) : Tape :=
  let uncut := Tape.ofCursor s.cursor
  ⟨s.waiting.filterMap Token.lexeme? ++ uncut.lexemes, uncut.ending⟩

theorem size_tape (s : TokenStream) : s.tape.size = s.left := by
  rw [Tape.size, tape, List.length_append, List.length_filterMap_eq_countP]
  rfl

theorem tape_ofText (source : String) : (ofText source).tape = Tape.ofText source := rfl

def after (s : TokenStream) : List Step → TokenStream
  | [] => s
  | step :: steps => after (s.perform step).2 steps

/-- Every stream that steps lead to shows some elements. -/
theorem exists_shows_after (source : String) (steps : List Step) :
    ∃ o, ((ofText source).after steps).Shows o := by
  have general : ∀ s o, Shows s o → ∃ o', (s.after steps).Shows o' := by
    induction steps with
    | nil => exact fun s o h => ⟨o, h⟩
    | cons step steps ih =>
      intro s o h
      rw [← Supply.drop_zero o] at h
      exact ih _ _ (h.of_perform step).2
  exact general _ _ (shows_ofText source)

variable {s : TokenStream} {o : Supply}

/-- The lexemes that wait and those not cut yet are all that the stream shows. -/
theorem Shows.tape_eq (h : s.Shows o) : s.tape = o.tape := by
  obtain ⟨waiting, k⟩ := s
  induction waiting generalizing o with
  | nil =>
    have hk : k.supply = o := h.cursor.trans (Supply.drop_zero o)
    rw [← hk, ← Tape.ofCursor_eq_tape]
    rfl
  | cons t ts ih =>
    have hfirst := h.waiting 0 (Nat.zero_lt_succ _)
    cases t with
    | lexeme l =>
      rw [Supply.tape_of_lexeme hfirst, ← ih h.tail]
      rfl
    | endOfInput p =>
      cases Supply.eq_of_end hfirst
      exact ih h.tail

/-- As many lexemes are left as are shown. -/
theorem Shows.left_eq (h : s.Shows o) : s.left = o.lexemes.length := by
  rw [← size_tape, h.tape_eq]
  rfl

/-- Behind some of the lexemes that are left, the others are. -/
theorem Shows.tape_popped (h : s.Shows o) {n : Nat} (hn : n ≤ s.left) :
    (s.popped n).tape = s.tape.drop n := by
  rw [(h.of_popped n).tape_eq, h.tape_eq]
  exact Supply.tape_drop (h.left_eq ▸ hn)

/-- Looking ahead takes nothing, whether it fails or not. -/
theorem Shows.left_peek (h : s.Shows o) (n : Nat) : (s.peek n).2.left = s.left := by
  have hpeek := (h.of_peek n).2
  rw [hpeek.left_eq, h.left_eq]
  split <;> rfl

end TokenStream

/-- The reply that a reader makes of a stream's answer to a step, with what is left then. -/
def Reader.replyTo (f : List Token → Tape → Reply α) :
    Except UnclosedString (List Token) × TokenStream → Reply α
  | (.ok tokens, s) => f tokens s.tape
  | (.error e, _) => .error (.unclosed e)

/-- What the readers of single tokens do with what is left of the stream are its steps: they take
the next token, or they look at the next one or two. No answer to a look at one token has any other
form than those that `position` tells apart. -/
structure TokenStream.FeedsReaders (s : TokenStream) : Prop where
  take (what : String) : Reader.take what s.tape = Reader.replyTo (fun
    | [.lexeme l], rest => .ok l rest
    | _, _ => .error (.unexpectedEnd what)) (s.perform .pop)
  look : Reader.look s.tape = Reader.replyTo (fun
    | [.lexeme l], rest => .ok (some l) rest
    | _, rest => .ok none rest) (s.perform (.peek 1))
  lookTwo : Reader.lookTwo s.tape = Reader.replyTo (fun
    | [.lexeme l, .lexeme m], rest => .ok (some (l, some m)) rest
    | [.lexeme l, _], rest => .ok (some (l, none)) rest
    | _, rest => .ok none rest) (s.perform (.peek 2))
  position : Reader.position s.tape = Reader.replyTo (fun
    | [.lexeme l], rest => .ok l.start rest
    | [.endOfInput p], rest => .ok p rest
    | _, _ => .spent) (s.perform (.peek 1))

namespace TokenStream

variable {s : TokenStream} {o : Supply}

/-- The reply to a step is made of the answer that the elements give. -/
theorem Shows.replyTo_eq (h : s.Shows o) (step : Step) (f : List Token → Tape → Reply α) :
    Reader.replyTo f (s.perform step) =
      match o.answer 0 step with
      | .ok tokens => f tokens (o.drop (o.after 0 step)).tape
      | .error e => .error (.unclosed e) := by
  rw [← Supply.drop_zero o] at h
  obtain ⟨hanswer, hrest⟩ := h.of_perform step
  rcases hperform : s.perform step with ⟨e | tokens, s'⟩
  all_goals
    rw [hperform] at hanswer hrest
    rw [← hanswer] at hrest ⊢
  · rfl
  · rw [Reader.replyTo, hrest.tape_eq]
    rfl

/-- Readers of single tokens do on the tape what the stream does. -/
theorem Shows.feedsReaders (h : s.Shows o) : s.FeedsReaders := by
  constructor
  · intro what
    rw [h.replyTo_eq, h.tape_eq]
    obtain ⟨_ | ⟨l, ls⟩, _ | e, stop⟩ := o <;> rfl
  · rw [h.replyTo_eq, h.tape_eq]
    obtain ⟨_ | ⟨l, ls⟩, _ | e, stop⟩ := o <;> rfl
  · rw [h.replyTo_eq, h.tape_eq]
    obtain ⟨_ | ⟨l, _ | ⟨m, ls⟩⟩, _ | e, stop⟩ := o <;> rfl
  · rw [h.replyTo_eq, h.tape_eq]
    obtain ⟨_ | ⟨l, ls⟩, _ | e, stop⟩ := o <;> rfl

end TokenStream
end ChordRules
