import LogicLexer.Token.Symbol

/-!
# Kinds of tokens

What tokens are sorted by: identifiers, numbers, and each symbol on its own.

## Main definitions

* `Kind` — the kinds, listed by `Kind.all`
* `Kind.label`, `Kind.ofLabel?` — a kind and its name
* `Kind.carriesValue`, `Kind.isKeyword`, `Kind.isOperator` — groups of kinds
-/

namespace LogicLexer

/-- What tokens are sorted by. -/
inductive Kind
  | identifier
  | number
  | symbol (symbol : Symbol)
  deriving DecidableEq, Repr

namespace Kind

/-- Every kind, in listed order. -/
def all : List Kind :=
  identifier :: number :: Symbol.all.map symbol

/-- The name of a kind in answers and messages. -/
def label : Kind → String
  | identifier => "IDENTIFIER"
  | number => "NUMBER"
  | symbol s => s.label

/-- The kind of that name. -/
def ofLabel? (name : String) : Option Kind :=
  all.find? fun kind => kind.label == name

/-- The kinds of tokens with a value beside their lexeme. -/
def carriesValue : Kind → Bool
  | symbol _ => false
  | _ => true

/-- The kinds that are keywords. -/
def isKeyword : Kind → Bool
  | symbol s => s.isKeyword
  | _ => false

/-- The kinds that are operators. -/
def isOperator : Kind → Bool
  | symbol s => s.isOperator
  | _ => false

end Kind

end LogicLexer
