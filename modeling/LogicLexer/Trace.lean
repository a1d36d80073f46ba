import LogicLexer.Tokenize

/-!
# Tracing

Reading a source leaves one record behind, which says how it went.

## Main definitions

* `LogRecord` — a record of the log
* `tokenizeTraced` — the outcome of reading a text, with the records left behind
-/

namespace LogicLexer

/-- A record of the log. It has no message if one of the numbers in it cannot be written. -/
structure LogRecord where
  channel : String
  level : String
  message : Except Numeral.Unconvertible String

namespace LogRecord

/-- A record of the lexer, for those who look for faults. -/
def debug (message : Except Numeral.Unconvertible String) : LogRecord :=
  ⟨"prooflang.lexer.lexer", "DEBUG", message⟩

/-- The record of a text that was read: the number of its characters and of its tokens. -/
def success (characters tokens : Nat) : LogRecord :=
  debug do
    let characters ← Numeral.toText characters
    let tokens ← Numeral.toText tokens
    return "Tokenized " ++ String.ofList characters ++ " characters into " ++
      String.ofList tokens ++ " tokens"

/-- The record of a text that was refused: where, and with which message. -/
def refusal (error : LexError) : LogRecord :=
  debug <| (Numeral.toText error.diagnostic.offset).map fun offset =>
    "Tokenization failed at offset " ++ String.ofList offset ++ ": " ++ error.diagnostic.message

end LogRecord

/-- The outcome of reading a text, with the records left behind. -/
def tokenizeTraced (config : Config) (text : Text) :
    Except Failure (List Token) × List LogRecord :=
  match tokenize config text with
  | .ok tokens => (.ok tokens, [.success text.length tokens.length])
  | .error (.lexical error) => (.error (.lexical error), [.refusal error])
  | .error failure => (.error failure, [])

end LogicLexer
