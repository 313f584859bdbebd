import ChordRules.Text.Word

/-! # Places in a text

A position is a line and a column; a span reaches from one position up to another. A cursor is a
place in a text with the characters from there on. Between what counts in a text stand blanks, and
comments from a `#` to the end of the line. -/
namespace ChordRules

/-- A place in a text. Lines and columns count from one, columns in characters. -/
structure Position where
  line : Nat
  column : Nat
  deriving DecidableEq, Repr

namespace Position

def start : Position := ⟨1, 1⟩

/-- The place after a character. -/
def after (p : Position) (c : Char) : Position :=
  if c = '\n' then ⟨p.line + 1, 1⟩ else ⟨p.line, p.column + 1⟩

/-- The place after a row of characters. -/
def afterAll (p : Position) (cs : List Char) : Position := cs.foldl after p

@[simp] theorem afterAll_nil (p : Position) : p.afterAll [] = p := rfl
@[simp] theorem afterAll_cons (p : Position) (c : Char) (cs : List Char) :
    p.afterAll (c :: cs) = (p.after c).afterAll cs := rfl
theorem afterAll_append (p : Position) (cs ds : List Char) :
    p.afterAll (cs ++ ds) = (p.afterAll cs).afterAll ds := by simp [afterAll]

def render (p : Position) : String :=
  "[line " ++ showNat p.line ++ " column " ++ showNat p.column ++ "]"

end Position

/-- A piece of a text, without the character at its end. -/
structure Span where
  start : Position
  stop : Position
  deriving DecidableEq, Repr


structure Cursor where
  rest : List Char
  position : Position

namespace Cursor

def ofText (source : String) : Cursor := ⟨source.toList, .start⟩

/-- The cursor behind the next `n` characters. -/
def advance (k : Cursor) (n : Nat) : Cursor :=
  ⟨k.rest.drop n, k.position.afterAll (k.rest.take n)⟩

@[simp] theorem rest_advance (k : Cursor) (n : Nat) : (k.advance n).rest = k.rest.drop n := rfl

@[simp] theorem advance_zero (k : Cursor) : k.advance 0 = k := by
  cases k; simp [advance]

/-- How many characters of blanks and comments stand here; a comment takes the line feed that ends
it along. -/
def gapLength (inComment : Bool) : List Char → Nat
  | [] => 0
  | c :: cs =>
    if inComment then gapLength (c != '\n') cs + 1
    else if isBlank c then gapLength false cs + 1
    else if c = '#' then gapLength true cs + 1
    else 0

/-- The cursor behind the next character, if there is one. -/
def step (k : Cursor) : Cursor :=
  match k.rest with
  | [] => k
  | c :: rest => ⟨rest, k.position.after c⟩

/-- The cursor behind blanks and comments. -/
def skipGap (k : Cursor) : Cursor := k.advance (gapLength false k.rest)

/-- The place of a cursor, which holds no character. -/
def here (k : Cursor) : Span := ⟨k.position, k.position⟩

/-- The next character's place. -/
def charSpan (k : Cursor) : Span := ⟨k.position, k.step.position⟩

end Cursor
end ChordRules
