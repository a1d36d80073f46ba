import LogicLexer.Failure
import LogicLexer.Numeral.Printing

/-!
# Tokens

A token is what a piece of source means, together with that piece. Two tokens are the
same when they mean the same, however they were written, so the two spellings of the
arrow make the same token. Every token but an overlong negative number can be written
down.

## Main definitions

* `NumberValue` — the two parts of a number, and the text of both
* `Meaning` — a word, a number or a symbol
* `Token` — a meaning with its lexeme
* `Token.agrees` — sameness of meaning
* `Token.display` — the short text of a token in messages
-/

namespace LogicLexer

/-- The value of a numeral: the numbers before and after its point, each read on its
own. -/
structure NumberValue where
  whole : Int
  frac : Int := 0
  deriving DecidableEq, Repr

/-- The text of a number. A fraction part of zero is left out together with the point. -/
def NumberValue.print (value : NumberValue) : Except Numeral.Unconvertible Text := do
  let whole ← Numeral.write value.whole
  if value.frac = 0 then
    return whole
  else
    let frac ← Numeral.write value.frac
    return whole ++ '.' :: frac

/-- What a token stands for. -/
inductive Meaning
  | identifier (text : Text)
  | number (value : NumberValue)
  | symbol (symbol : Symbol)
  deriving DecidableEq, Repr

/-- The kind of a meaning. -/
def Meaning.kind : Meaning → Kind
  | identifier _ => .identifier
  | number _ => .number
  | symbol s => .symbol s

/-- A meaning and the piece of source that was read as it. -/
structure Token where
  meaning : Meaning
  lexeme : Text := []
  deriving DecidableEq, Repr

namespace Token

/-- The token of a word that names itself. -/
def identifier (text : Text) : Token :=
  ⟨.identifier text, text⟩

/-- The token of a number. -/
def number (whole frac : Int) (lexeme : Text) : Token :=
  ⟨.number ⟨whole, frac⟩, lexeme⟩

/-- The token of a symbol. -/
def symbol (symbol : Symbol) (lexeme : Text) : Token :=
  ⟨.symbol symbol, lexeme⟩

/-- The token of a kind that carries no value. -/
def ofKind (kind : Kind) (lexeme : Text) : Except Failure Token :=
  match kind with
  | .symbol s => .ok (symbol s lexeme)
  | _ => .error (.carriesValue kind)

/-- The kind of a token. -/
def kind (token : Token) : Kind :=
  token.meaning.kind

/-- The two tokens mean the same, whatever their lexemes. -/
def agrees (left right : Token) : Bool :=
  left.meaning == right.meaning

/-- The tokens without those that mean the same as an earlier one. -/
def distinct (tokens : List Token) : List Token :=
  tokens.eraseDupsBy agrees

/-- The kind of a token, followed by its value if it carries one. -/
def display (token : Token) : Except Failure Text :=
  let label := token.kind.label.toList
  match token.meaning with
  | .identifier text => .ok (label ++ '(' :: text ++ [')'])
  | .number value =>
    (value.print.map fun text => label ++ '(' :: text ++ [')']).mapError .unconvertible
  | .symbol _ => .ok label

theorem agrees_iff (left right : Token) :
    left.agrees right = true ↔ left.meaning = right.meaning := by
  simp [agrees]

end Token

end LogicLexer
