import ChordRules.Rule
import ChordRules.Text.Word
import ChordRules.Token.Stream

/-! # Reading rules from a tape

A token that stands alone is a text in quotes, a number or a name. Numbers have no sign and no
leading zero and must fit 64 bits; names begin with a letter, hold letters and digits only, and
are not reserved.

A reader takes lexemes off the front of a tape. It replies with what it read and the rest of the
tape, with an error, or that its fuel is spent. Looking ahead takes nothing, but it fails where an
open string is in the way. There is one reader for each phrase of the language. Operators have no
precedence: what follows an operator is a whole expression. Two tokens that together are the symbol
of an operator are read as that operator before the first of them is tried alone. The number that
each reader is given bounds how deep it may go; `Grammar.Progress` shows how much is enough. -/
namespace ChordRules

/-- Why a word cannot be a name. -/
inductive NameFault where
  | notALetterFirst
  | otherCharacter
  | reserved
  deriving DecidableEq, Repr

def NameFault.message : NameFault → String
  | notALetterFirst => "Valid variables start with letter"
  | otherCharacter => "Valid variables must be alphanumeric"
  | reserved => "Cannot use reserved word for variable"

/-- A fault that stops the reading of a rule. Positions are those of the token at fault; that of
`notAssignable` is where the expression before the assignment starts. -/
inductive ParseError where
  | unclosed (e : UnclosedString)
  | expected (what found : String) (position : Position)
  | unexpectedEnd (what : String)
  | invalidName (name : String) (fault : NameFault) (position : Position)
  | numberOutOfRange (numeral : String) (position : Position)
  | notAssignable (target : String) (position : Position)
  deriving DecidableEq, Repr

def ParseError.message : ParseError → String
  | unclosed e => e.message
  | expected what found position =>
    position.render ++ " Expecting \"" ++ what ++ "\", found `" ++ found ++ "`"
  | unexpectedEnd what => "Unexpected end of input, expecting \"" ++ what ++ "\""
  | invalidName name fault position =>
    position.render ++ " " ++ fault.message ++ ": " ++ name
  | numberOutOfRange numeral position =>
    position.render ++ " Number out of range: " ++ numeral
  | notAssignable target position => position.render ++ " Cannot assign to " ++ target


def reservedWords : List String := ["if", "else", "and", "or"]

/-- What keeps a word from being a name, if anything does. -/
def nameFault? (word : String) : Option NameFault :=
  if !word.toList.head?.any isLetter then some .notALetterFirst
  else if !word.toList.all isLetterOrDigit then some .otherCharacter
  else if reservedWords.contains word then some .reserved
  else none

/-- The text between the quotes of a string token. -/
def unquoted? (cs : List Char) : Option (List Char) :=
  match cs with
  | '"' :: rest => if rest.getLast? = some '"' then some rest.dropLast else none
  | _ => none

/-- The least numeral that is too large for a number. -/
def numeralLimit : Nat := 0x8000000000000000

def Lexeme.classify (l : Lexeme) : Except ParseError Rule :=
  match unquoted? l.text.toList with
  | some s => .ok (.text (String.ofList s))
  | none =>
    if isCanonicalNumeral l.text.toList then
      if readDigits l.text.toList < numeralLimit then
        .ok (.number (Int64.ofNat (readDigits l.text.toList)))
      else .error (.numberOutOfRange l.text l.start)
    else match nameFault? l.text with
      | some fault => .error (.invalidName l.text fault l.start)
      | none => .ok (.symbol l.text)


inductive Reply (α : Type) where
  | ok (a : α) (rest : Tape)
  | error (e : ParseError)
  | spent

def Reader (α : Type) : Type := Tape → Reply α

namespace Reader

def pure (a : α) : Reader α := fun t => .ok a t

def bind (p : Reader α) (f : α → Reader β) : Reader β := fun t =>
  match p t with
  | .ok a rest => f a rest
  | .error e => .error e
  | .spent => .spent

instance : Monad Reader where
  pure := pure
  bind := bind

theorem bind_of_ok {p : Reader α} {t rest : Tape} {a : α} (f : α → Reader β)
    (h : p t = .ok a rest) : (p >>= f) t = f a rest := by
  change bind p f t = f a rest
  simp only [bind, h]

theorem bind_of_error {p : Reader α} {t : Tape} {e : ParseError} (f : α → Reader β)
    (h : p t = .error e) : (p >>= f) t = .error e := by
  change bind p f t = .error e
  simp only [bind, h]

def fail (e : ParseError) : Reader α := fun _ => .error e

/-- The reply of a reader that may not go deeper. -/
def spent : Reader α := fun _ => .spent

/-- The next lexeme, left where it is; nothing at the end of the input. -/
def look : Reader (Option Lexeme) := fun t =>
  match t.lexemes, t.ending with
  | l :: _, _ => .ok (some l) t
  | [], .endOfInput _ => .ok none t
  | [], .unclosed e => .error (.unclosed e)

/-- The next two lexemes, left where they are. -/
def lookTwo : Reader (Option (Lexeme × Option Lexeme)) := fun t =>
  match t.lexemes, t.ending with
  | l :: m :: _, _ => .ok (some (l, some m)) t
  | [l], .endOfInput _ => .ok (some (l, none)) t
  | [], .endOfInput _ => .ok none t
  | _, .unclosed e => .error (.unclosed e)

/-- Takes the next lexeme, which stands for the given thing. -/
def take (what : String) : Reader Lexeme := fun t =>
  match t.lexemes, t.ending with
  | l :: ls, _ => .ok l { t with lexemes := ls }
  | [], .endOfInput _ => .error (.unexpectedEnd what)
  | [], .unclosed e => .error (.unclosed e)

/-- Where the next token starts. -/
def position : Reader Position := fun t =>
  match t.lexemes, t.ending with
  | l :: _, _ => .ok l.start t
  | [], .endOfInput p => .ok p t
  | [], .unclosed e => .error (.unclosed e)

/-- Whether the next token has the given text. -/
def sees (text : String) : Reader Bool := do
  return (← look).any (·.text == text)

def atEnd : Reader Bool := do
  return (← look).isNone

/-- Takes the next lexeme, whose text must be the given one. -/
def expect (text : String) : Reader Unit := do
  let l ← take text
  if l.text = text then return () else fail (.expected text l.text l.start)

end Reader

namespace Reader

/-- A text, a number or a name. -/
def word : Reader Rule := do
  match (← take "expression").classify with
  | .ok r => return r
  | .error e => fail e

/-- The operator at the front of the tape, taken off if there is one. -/
def operator? : Reader (Option Operator) := do
  match ← lookTwo with
  | none => return none
  | some (l, m) =>
    match m.bind fun m => Operator.ofSymbol? (l.text ++ m.text) with
    | some op =>
      let _ ← take op.symbol
      let _ ← take op.symbol
      return some op
    | none =>
      match Operator.ofSymbol? l.text with
      | some op =>
        let _ ← take op.symbol
        return some op
      | none => return none

mutual

/-- A statement, or the statements between braces. -/
def block : Nat → Reader (List Rule)
  | 0 => spent
  | n + 1 => do
    if ← sees "\x7b" then
      expect "\x7b"
      blockRest n
    else
      return [← statement n]

/-- The statements up to a closing brace, and the brace. -/
def blockRest : Nat → Reader (List Rule)
  | 0 => spent
  | n + 1 => do
    if ← sees "\x7d" then
      expect "\x7d"
      return []
    else if ← atEnd then
      fail (.unexpectedEnd "\x7d")
    else
      let first ← block n
      return first ++ (← blockRest n)

def statement : Nat → Reader Rule
  | 0 => spent
  | n + 1 => do
    if ← sees "if" then
      expect "if"
      expect "("
      let condition ← expression n
      expect ")"
      let body ← block n
      if ← sees "else" then
        expect "else"
        return .ifElse condition (.block body) (.block (← block n))
      else
        return .ifThen condition (.block body)
    else
      expression n

def expression : Nat → Reader Rule
  | 0 => spent
  | n + 1 => do
    let start ← position
    let left ← operand n
    match ← operator? with
    | none => return left
    | some op =>
      if op = .assign ∧ left.isSymbol = false then
        fail (.notAssignable left.render start)
      else
        return .binary op left (← expression n)

/-- An expression in parentheses, or a term. -/
def operand : Nat → Reader Rule
  | 0 => spent
  | n + 1 => do
    if ← sees "(" then
      expect "("
      let inner ← expression n
      expect ")"
      return inner
    else
      term n

/-- A text, a number, a name, or a call. -/
def term : Nat → Reader Rule
  | 0 => spent
  | n + 1 => do
    match ← word with
    | .symbol name =>
      if ← sees "(" then
        expect "("
        return .call name (← arguments n)
      else
        return .symbol name
    | r => return r

/-- The arguments of a call after the opening parenthesis, and the closing one. -/
def arguments : Nat → Reader (List Rule)
  | 0 => spent
  | n + 1 => do
    if ← sees ")" then
      expect ")"
      return []
    else
      let first ← expression n
      return first :: (← argumentsRest n)

def argumentsRest : Nat → Reader (List Rule)
  | 0 => spent
  | n + 1 => do
    if ← sees "," then
      expect ","
      let next ← expression n
      return next :: (← argumentsRest n)
    else
      expect ")"
      return []

end

/-- All statements up to the end of the input. -/
def program : Nat → Reader (List Rule)
  | 0 => spent
  | n + 1 => do
    if ← atEnd then
      return []
    else
      let first ← block n
      return first ++ (← program n)

end Reader
end ChordRules
