import LogicLexer.LexError
import LogicLexer.Token.Kind

/-!
# Failures

Why an operation gives no result. Beside the lexical errors, which are about a source,
three failures are about a call: a position that holds no character, a request for a bare
token of a kind that carries a value, and a number or a numeral that cannot be converted.

## Main definitions

* `Failure`, `Failure.message` — the causes and their wording
-/

namespace LogicLexer

/-- Why an operation gives no result. -/
inductive Failure
  | lexical (error : LexError)
  | misplaced (reason : Misplaced)
  | carriesValue (kind : Kind)
  | unconvertible (reason : Numeral.Unconvertible)
  deriving DecidableEq, Repr

/-- How many characters of a quoted text are shown. -/
def Numeral.Unconvertible.shownLength : Nat := 200

/-- The wording of a failed conversion. -/
def Numeral.Unconvertible.message : Numeral.Unconvertible → String
  | notANumeral text =>
    "invalid literal for int() with base 10: " ++
      String.ofList ((Text.quoted text).take shownLength)
  | tooManyDigits digits? =>
    let found := match digits? with
      | some digits => ": value has " ++ String.ofList (decimal digits) ++ " digits"
      | none => ""
    "Exceeds the limit (" ++ String.ofList (decimal digitLimit) ++
      " digits) for integer string conversion" ++ found ++
      "; use sys.set_int_max_str_digits() to increase the limit"

/-- The wording of a failure. That of a lexical error is its report, and there is none if the
report cannot be written. -/
def Failure.message : Failure → Except Numeral.Unconvertible String
  | lexical error => error.diagnostic.render
  | misplaced .outOfRange => .ok "string index out of range"
  | misplaced .notAnIndex => .ok "cannot fit 'int' into an index-sized integer"
  | carriesValue kind =>
    .ok (kind.label ++ " tokens carry a value, use the dedicated constructor")
  | unconvertible reason => .ok reason.message

end LogicLexer
