/-!
# Symbols

The tokens that carry no value: quantifiers and type keywords, arithmetic, comparison
and logical operators, brackets and separators.

## Main definitions

* `Symbol` — the symbols, in the order in which they are listed
* `Symbol.label` — the name of a symbol in answers and messages
* `Symbol.isKeyword`, `Symbol.isOperator` — the two groups that callers ask for
-/

namespace LogicLexer

/-- A token that carries no value. -/
inductive Symbol
  | universal
  | existential
  | type
  | typeof
  | val
  | add
  | sub
  | mul
  | div
  | mod
  | less
  | greater
  | conjunction
  | disjunction
  | negation
  | bottom
  | leftParen
  | rightParen
  | leftBracket
  | rightBracket
  | comma
  | colon
  | arrow
  deriving DecidableEq, Repr

namespace Symbol

/-- Every symbol, in listed order. -/
def all : List Symbol :=
  [universal, existential, type, typeof, val, add, sub, mul, div, mod, less, greater, conjunction,
   disjunction, negation, bottom, leftParen, rightParen, leftBracket, rightBracket, comma, colon,
   arrow]

/-- The name of a symbol in answers and messages. -/
def label : Symbol → String
  | universal => "FORALL"
  | existential => "EXISTS"
  | type => "TYPE"
  | typeof => "TYPEOF"
  | val => "VAL"
  | add => "OP_ADD"
  | sub => "OP_SUB"
  | mul => "OP_MUL"
  | div => "OP_DIV"
  | mod => "OP_MOD"
  | less => "OP_LT"
  | greater => "OP_GT"
  | conjunction => "OP_AND"
  | disjunction => "OP_OR"
  | negation => "NEGATION"
  | bottom => "BOTTOM"
  | leftParen => "LEFT_PAREN"
  | rightParen => "RIGHT_PAREN"
  | leftBracket => "LEFT_BRACKET"
  | rightBracket => "RIGHT_BRACKET"
  | comma => "COMMA"
  | colon => "COLON"
  | arrow => "ARROW"

/-- A quantifier or a type keyword. -/
def isKeyword : Symbol → Bool
  | universal | existential | type | typeof | val => true
  | _ => false

/-- An arithmetic, comparison or logical operator. -/
def isOperator : Symbol → Bool
  | add | sub | mul | div | mod | less | greater | conjunction | disjunction | negation => true
  | _ => false

end Symbol

end LogicLexer
