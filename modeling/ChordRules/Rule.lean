import ChordRules.Text.Word
import ChordRules.Text.Quoted

/-! # Rule trees

The tree of a rule text, and its two written forms. The first is a line of rule text in which
every operator is parenthesised; it separates the statements of a block with semicolons, which
rule text itself does not. The second is an outline with one node on a line, indented by depth.

Arithmetic and comparisons look at both operands. Assignment, `and` and `or` do not, so they are
kinds of their own, and whatever applies an operator to two values has no case for them. -/
namespace ChordRules

inductive Arithmetic where
  | divide | multiply | add | subtract
  deriving DecidableEq, Repr

inductive Comparison where
  | greater | less | lessEqual | greaterEqual
  deriving DecidableEq, Repr

inductive Operator where
  | arithmetic (op : Arithmetic)
  | comparison (op : Comparison)
  | equal
  | assign
  | and
  | or
  deriving DecidableEq, Repr

namespace Operator

def symbol : Operator → String
  | arithmetic .divide => "/"
  | arithmetic .multiply => "*"
  | arithmetic .add => "+"
  | arithmetic .subtract => "-"
  | comparison .greater => ">"
  | comparison .less => "<"
  | comparison .lessEqual => "<="
  | comparison .greaterEqual => ">="
  | equal => "=="
  | assign => "="
  | and => "and"
  | or => "or"

def all : List Operator :=
  [arithmetic .divide, arithmetic .multiply, arithmetic .add, arithmetic .subtract, assign,
   comparison .greater, comparison .less, comparison .lessEqual, comparison .greaterEqual,
   equal, and, or]

theorem mem_all (op : Operator) : op ∈ all := by
  rcases op with (_ | _ | _ | _) | (_ | _ | _ | _) | _ | _ | _ | _ <;> decide

/-- The operator that a text is the symbol of. -/
def ofSymbol? (text : String) : Option Operator := all.find? (·.symbol == text)

theorem symbol_of_ofSymbol? {text : String} {op : Operator} (h : ofSymbol? text = some op) :
    op.symbol = text := by
  simpa using List.find?_some h

theorem ofSymbol?_symbol (op : Operator) : ofSymbol? op.symbol = some op := by
  rcases op with (_ | _ | _ | _) | (_ | _ | _ | _) | _ | _ | _ | _ <;> decide

end Operator

inductive Rule where
  | block (statements : List Rule)
  | ifThen (condition body : Rule)
  | ifElse (condition body other : Rule)
  | binary (op : Operator) (left right : Rule)
  | call (name : String) (arguments : List Rule)
  | text (s : String)
  | number (n : Int64)
  | symbol (name : String)

namespace Rule

def kindName : Rule → String
  | block _ => "block"
  | ifThen .. | ifElse .. => "if statement"
  | binary .. => "binary operator"
  | call .. => "function call"
  | text _ => "string literal"
  | number _ => "numeric literal"
  | symbol _ => "symbol"

def isSymbol : Rule → Bool
  | symbol _ => true
  | _ => false

mutual

def render : Rule → String
  | block statements => "\x7b " ++ renderAll "; " statements ++ " \x7d"
  | ifThen c t => "if (" ++ c.render ++ ") " ++ t.render
  | ifElse c t e => "if (" ++ c.render ++ ") " ++ t.render ++ " else " ++ e.render
  | binary op l r => "(" ++ l.render ++ " " ++ op.symbol ++ " " ++ r.render ++ ")"
  | call name arguments => name ++ "(" ++ renderAll ", " arguments ++ ")"
  | text s => "\"" ++ s ++ "\""
  | number n => showInt n.toInt
  | symbol name => name

/-- The written forms with a separator between them. -/
def renderAll (separator : String) : List Rule → String
  | [] => ""
  | [r] => r.render
  | r :: rs => r.render ++ separator ++ renderAll separator rs

end

/-- Two blanks for each level. -/
def indent (depth : Nat) : String := String.ofList (List.replicate (2 * depth) ' ')

def outlineLine (depth : Nat) (s : String) : String := indent depth ++ s ++ "\n"

mutual

/-- The outline of a tree that stands at the given depth. -/
def outlineAt (depth : Nat) : Rule → String
  | block statements =>
    outlineLine depth ("block (" ++ showNat statements.length ++ ")") ++
      outlineAll (depth + 1) statements
  | ifThen c t =>
    outlineLine depth "if" ++ outlineAt (depth + 1) c ++ outlineAt (depth + 1) t
  | ifElse c t e =>
    outlineLine depth "if" ++ outlineAt (depth + 1) c ++ outlineAt (depth + 1) t ++
      outlineLine depth "else" ++ outlineAt (depth + 1) e
  | binary op l r =>
    outlineLine depth op.symbol ++ outlineAt (depth + 1) l ++ outlineAt (depth + 1) r
  | call name arguments =>
    outlineLine depth ("call " ++ name ++ " (" ++ showNat arguments.length ++ ")") ++
      outlineAll (depth + 1) arguments
  | text s => outlineLine depth ("string " ++ quote s)
  | number n => outlineLine depth ("number " ++ showInt n.toInt)
  | symbol name => outlineLine depth ("symbol " ++ name)

def outlineAll (depth : Nat) : List Rule → String
  | [] => ""
  | r :: rs => outlineAt depth r ++ outlineAll depth rs

end

def outline (r : Rule) : String := outlineAt 0 r

end Rule
end ChordRules
