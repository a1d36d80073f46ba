import LogicLexer.Diagnostic

/-!
# Lexical errors

A source is refused at its first fault: a character that no token begins with, or a
numeral with more than one decimal point. An error says which of the two it is, names
the offending text and carries a report with advice.

## Main definitions

* `Fault` — what is wrong
* `LexError` — a fault with its report
* `ErrorCode` — the catalogue of error codes
* `alternatives` — the logic symbols meant by ASCII characters that are none
* `LexError.unrecognizedAt`, `LexError.malformedAt` — the errors that reading a source
  can end with
-/

namespace LogicLexer

/-- What is wrong with a source. A fault of no particular sort carries nothing but its
report. -/
inductive Fault
  | general
  | unrecognized (char remaining : Text)
  | malformed (lexeme : Text)
  deriving DecidableEq, Repr

/-- A fault with its report. -/
structure LexError where
  fault : Fault
  diagnostic : Diagnostic
  deriving DecidableEq, Repr

/-- The errors that have a code. -/
inductive ErrorCode
  | unrecognizedCharacter
  | malformedNumeral
  deriving DecidableEq, Repr

namespace ErrorCode

/-- Every error with a code, in the order of the codes. -/
def all : List ErrorCode := [unrecognizedCharacter, malformedNumeral]

/-- The code of an error. -/
def label : ErrorCode → String
  | unrecognizedCharacter => "L001"
  | malformedNumeral => "L003"

/-- What an error is called. -/
def title : ErrorCode → String
  | unrecognizedCharacter => "Unrecognized character"
  | malformedNumeral => "Malformed numeric literal"

/-- The title followed by the offending text. -/
def message (code : ErrorCode) (offending : Text) : String :=
  code.title ++ ": " ++ String.ofList offending.quoted

end ErrorCode

/-- ASCII characters that are no symbols, each with the logic symbols that it may be
meant for. -/
def alternatives : List (Char × List Char) :=
  [('!', ['¬']), ('&', ['∧']), ('^', ['∧']), ('|', ['∨']), ('~', ['¬'])]

/-- The logic symbols that a text may be meant for: those of its character, if it has
just one. -/
def suggest : Text → List Char
  | [c] => (alternatives.lookup c).getD []
  | _ => []

namespace LexError

/-- An error of no particular sort. -/
def general (message : String) (offset : Int) (context : Text) (advice : Advice) : LexError :=
  ⟨.general, ⟨message, offset, context, advice⟩⟩

/-- The error of a character that no token begins with, before the text that is left. -/
def unrecognized (char remaining : Text) (offset : Int) (advice : Advice) : LexError :=
  ⟨.unrecognized char remaining,
    ⟨ErrorCode.unrecognizedCharacter.message char, offset, remaining, advice⟩⟩

/-- The error of a numeral that does not split into two digit runs. -/
def malformed (lexeme : Text) (offset : Int) (context : Text) (advice : Advice) : LexError :=
  ⟨.malformed lexeme, ⟨ErrorCode.malformedNumeral.message lexeme, offset, context, advice⟩⟩

/-- Help about a character that no token begins with: the symbols that it may be meant
for, or else the character itself if it can be shown, or its code point. -/
def helpFor (c : Char) : String :=
  match suggest [c] with
  | [] =>
    if isPrintable c then
      "The character " ++ String.ofList (Text.quoted [c]) ++ " is not valid in prooflang source."
    else
      "Non-printable character (Unicode: U+" ++
        String.ofList ((hexadecimal 4 c.toNat).map Char.toUpper) ++ ") is not allowed."
  | meant =>
    "Did you mean one of these symbols: " ++
      String.intercalate ", " (meant.map String.singleton) ++ "?"

/-- Advice about a character that no token begins with. -/
def adviceFor (c : Char) : Advice where
  code := ErrorCode.unrecognizedCharacter.label
  help := helpFor c
  suggestions := some ((suggest [c]).map String.singleton)

/-- Advice about a numeral with several points. -/
def malformedAdvice : Advice where
  code := ErrorCode.malformedNumeral.label
  help := "A numeric literal may contain at most one decimal point."
  suggestions := some ["Separate the numbers with whitespace or an operator"]

/-- The error of the character at a position, unless the position lies outside the source. -/
def unrecognizedAt (source : Source) (position : Int) : Except Misplaced LexError :=
  (source.charAt position).map fun c =>
    unrecognized [c] (source.suffix position) position (adviceFor c)

/-- The error of a numeral that begins at a position. -/
def malformedAt (lexeme : Text) (source : Source) (position : Int) : LexError :=
  malformed lexeme position (source.suffix position) malformedAdvice

end LexError

end LogicLexer
