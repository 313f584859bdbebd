import ChordRules.Text.Cursor
import ChordRules.Text.Word

/-! # Tokens, tapes and streams

A token is a piece of rule text with the place where it starts, or the end of the input, which
has a place too. The text alone decides what a token stands for; strings keep their quotes. Taking
a token from a cursor skips blanks and comments first and moves the cursor behind the token. A
token takes at least one character, so that cutting the whole text ends.

A tape holds every token of a text and how the text ends: properly, or in a string without an
end. The grammar is read from tapes. A tape that ends in an open string can be read up to that
string; looking further is the error.

A stream holds the tokens that were looked at and not taken yet, and a cursor to cut more.
Taking and looking at tokens can fail at a string without an end; the stream lives on after
that, with the tokens before the string still waiting and nothing behind it. -/
namespace ChordRules

/-- A piece of rule text and where it starts. -/
structure Lexeme where
  text : String
  start : Position
  deriving DecidableEq, Repr

inductive Token where
  | lexeme (l : Lexeme)
  | endOfInput (position : Position)
  deriving DecidableEq, Repr

namespace Token

/-- How a token is named in a message. -/
def describe : Token → String
  | lexeme l => "`" ++ l.text ++ "`"
  | endOfInput _ => "end of input"

end Token

/-- The one fault that cutting a text into tokens can find: a string whose closing quote is
missing, at its opening quote. -/
structure UnclosedString where
  position : Position
  deriving DecidableEq, Repr

def UnclosedString.message (e : UnclosedString) : String :=
  e.position.render ++ " No closing quotation"


namespace Cursor

/-- How many characters the string token has whose opening quote is gone, that quote included;
nothing if no quote closes it. -/
def stringLength? : List Char → Option Nat
  | [] => none
  | c :: cs => if c = '"' then some 2 else (stringLength? cs).map (· + 1)

theorem stringLength?_pos {cs : List Char} {n : Nat} (h : stringLength? cs = some n) :
    2 ≤ n ∧ n ≤ cs.length + 1 := by
  induction cs generalizing n with
  | nil => simp [stringLength?] at h
  | cons c cs ih =>
    simp only [stringLength?] at h
    split at h
    · simp only [Option.some.injEq] at h
      simp only [List.length_cons]
      omega
    · obtain ⟨m, hm, rfl⟩ := Option.map_eq_some_iff.1 h
      have := ih hm
      simp only [List.length_cons]
      omega

/-- How many characters the token has that begins with the given ones; nothing if it is a string
without an end. -/
def tokenLength? : List Char → Option Nat
  | [] => some 0
  | c :: cs =>
    if c = '"' then stringLength? cs
    else if isWordChar c then some ((cs.takeWhile isWordChar).length + 1)
    else some 1

/-- The next token and the cursor behind it. A string without an end uses up the whole text. -/
def next (k : Cursor) : Except UnclosedString Token × Cursor :=
  let k := k.advance (gapLength false k.rest)
  match k.rest with
  | [] => (.ok (.endOfInput k.position), k)
  | c :: cs =>
    match tokenLength? (c :: cs) with
    | none => (.error ⟨k.position⟩, k.advance k.rest.length)
    | some n => (.ok (.lexeme ⟨String.ofList ((c :: cs).take n), k.position⟩), k.advance n)

theorem tokenLength?_pos {c : Char} {cs : List Char} {n : Nat}
    (h : tokenLength? (c :: cs) = some n) : 0 < n := by
  simp only [tokenLength?] at h
  split at h
  · have := stringLength?_pos h
    omega
  · split at h <;> simp only [Option.some.injEq] at h <;> omega

/-- A token takes at least one character. -/
theorem rest_next_lt {k k' : Cursor} {l : Lexeme} (h : k.next = (.ok (.lexeme l), k')) :
    k'.rest.length < k.rest.length := by
  simp only [next] at h
  split at h
  · simp at h
  · next c cs hrest =>
    split at h
    · simp at h
    · next n hn =>
      have hpos := tokenLength?_pos hn
      obtain ⟨-, rfl⟩ := Prod.mk.inj h
      have hlen := congrArg List.length hrest
      simp only [rest_advance, List.length_drop, List.length_cons] at hlen ⊢
      omega

end Cursor

/-- How a text ends, with the place of its end or of the opening quote. -/
inductive Ending where
  | endOfInput (position : Position)
  | unclosed (e : UnclosedString)
  deriving DecidableEq, Repr

structure Tape where
  lexemes : List Lexeme
  ending : Ending
  deriving DecidableEq, Repr

namespace Tape

/-- Puts a lexeme in front. -/
def cons (l : Lexeme) (t : Tape) : Tape := { t with lexemes := l :: t.lexemes }

@[simp] theorem lexemes_cons (l : Lexeme) (t : Tape) : (t.cons l).lexemes = l :: t.lexemes := rfl
@[simp] theorem ending_cons (l : Lexeme) (t : Tape) : (t.cons l).ending = t.ending := rfl

def ofCursor (k : Cursor) : Tape :=
  match _step : k.next with
  | (.error e, _) => ⟨[], .unclosed e⟩
  | (.ok (.endOfInput p), _) => ⟨[], .endOfInput p⟩
  | (.ok (.lexeme l), k') => (ofCursor k').cons l
termination_by k.rest.length
decreasing_by exact Cursor.rest_next_lt _step

def ofText (source : String) : Tape := ofCursor (.ofText source)

def texts (t : Tape) : List String := t.lexemes.map (·.text)

/-- The tokens of a text as far as its end, unless that is missing. -/
def lexemes? (t : Tape) : Except UnclosedString (List Lexeme) :=
  match t.ending with
  | .endOfInput _ => .ok t.lexemes
  | .unclosed e => .error e

end Tape

structure TokenStream where
  waiting : List Token
  cursor : Cursor

namespace TokenStream

def ofText (source : String) : TokenStream := ⟨[], .ofText source⟩

/-- Takes the next token. At the end of the input this is the end, again and again. -/
def pop (s : TokenStream) : Except UnclosedString Token × TokenStream :=
  match s.waiting with
  | t :: ts => (.ok t, { s with waiting := ts })
  | [] =>
    let r := s.cursor.next
    (r.1, ⟨[], r.2⟩)

/-- Cuts the given number of tokens more and lets them wait. -/
def fill : Nat → TokenStream → Except UnclosedString Unit × TokenStream
  | 0, s => (.ok (), s)
  | n + 1, s =>
    match s.cursor.next with
    | (.ok t, k) => fill n ⟨s.waiting ++ [t], k⟩
    | (.error e, k) => (.error e, { s with cursor := k })

/-- Looks at the next `n` tokens without taking them. -/
def peek (n : Nat) (s : TokenStream) : Except UnclosedString (List Token) × TokenStream :=
  match fill (n - s.waiting.length) s with
  | (.ok _, s) => (.ok (s.waiting.take n), s)
  | (.error e, s) => (.error e, s)

/-- The lexemes a cursor gives up to the end of the input. -/
def cutAll (k : Cursor) : Except UnclosedString (List Lexeme) × Cursor :=
  match _step : k.next with
  | (.error e, k') => (.error e, k')
  | (.ok (.endOfInput _), k') => (.ok [], k')
  | (.ok (.lexeme l), k') =>
    let r := cutAll k'
    (r.1.map (l :: ·), r.2)
termination_by k.rest.length
decreasing_by all_goals exact Cursor.rest_next_lt _step

def drainFrom (k : Cursor) : List Token → Except UnclosedString (List Lexeme) × TokenStream
  | [] =>
    let r := cutAll k
    (r.1, ⟨[], r.2⟩)
  | .endOfInput _ :: ts => (.ok [], ⟨ts, k⟩)
  | .lexeme l :: ts =>
    let r := drainFrom k ts
    (r.1.map (l :: ·), r.2)

/-- Takes all tokens up to the end of the input. Tokens taken before a failure are lost. -/
def drain (s : TokenStream) : Except UnclosedString (List Lexeme) × TokenStream :=
  drainFrom s.cursor s.waiting

end TokenStream
end ChordRules
