import LogicLexer.Vocabulary

/-!
# The meaning of a finished lexeme

Once a lexeme has been cut out of a source it is looked up in the vocabulary, or, if it
is a numeral, split at its decimal point into two digit runs that are read separately.
The fraction is a number and not a decimal part, so a zero after the point does not
count.

## Main definitions

* `Lexeme.wholePart`, `Lexeme.fracPart` — the digit runs on either side of the point
* `Lexeme.numeral` — the token of a numeral
-/

namespace LogicLexer.Lexeme

/-- The mark between the two digit runs of a numeral. -/
def point : Char := '.'

/-- The digit run before the first point. -/
def wholePart (text : Text) : Text :=
  text.takeWhile (· != point)

/-- The text after the first point, empty if there is none. -/
def fracPart (text : Text) : Text :=
  (text.dropWhile (· != point)).drop 1

/-- The value of a digit run. -/
def digitRun (text : Text) : Except Failure Int :=
  (Numeral.read text).mapError .unconvertible

/-- The token of a numeral that begins at an offset of a source. Without a source the
numeral itself is what a report refers to. -/
def numeral (text : Text) (source : Source) (offset : Int) : Except Failure Token :=
  if 1 < text.count point then
    let context := if source.isEmpty then text.toArray else source
    .error (.lexical (.malformedAt text context offset))
  else
    match digitRun (wholePart text) with
    | .error failure => .error failure
    | .ok whole =>
      match digitRun (fracPart text) with
      | .error failure => .error failure
      | .ok frac => .ok (.number whole frac text)

end LogicLexer.Lexeme
