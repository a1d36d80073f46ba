import LogicLexer.Numeral.Conversion
import LogicLexer.Text.Quoted

/-!
# Diagnostics

The report of a fault in a source: what is wrong, where, and what stands there, with an
error code, help and suggestions where there are any. A report is a few lines of text,
each ended by a line break. There is none for an offset of too many digits.

## Main definitions

* `Diagnostic` — the contents of a report
* `Diagnostic.lines`, `Diagnostic.render` — its layout
-/

namespace LogicLexer

/-- What a report offers beside the bare fault. -/
structure Advice where
  code : Option String := none
  help : Option String := none
  suggestions : Option (List String) := none
  deriving DecidableEq, Repr

/-- The contents of a report: the offset counts characters, and the context is the
source from there on. -/
structure Diagnostic where
  message : String
  offset : Int
  context : Text
  advice : Advice := {}
  deriving DecidableEq, Repr

namespace Diagnostic

/-- How many characters of the context a report shows. -/
def previewLength : Nat := 20

/-- The first line: the code, if there is one, and the message. -/
def headline (diagnostic : Diagnostic) : String :=
  match diagnostic.advice.code.filter (!·.isEmpty) with
  | some code => "ERROR[" ++ code ++ "]: " ++ diagnostic.message
  | none => "ERROR: " ++ diagnostic.message

/-- The line that says where the fault is and shows what stands there. -/
def location (diagnostic : Diagnostic) : Except Numeral.Unconvertible String :=
  (Numeral.toText diagnostic.offset).map fun offset =>
    "  --> offset " ++ String.ofList offset ++ ": " ++
      String.ofList (Text.quoted (diagnostic.context.preview previewLength))

/-- The help, if there is any. -/
def helpLines (diagnostic : Diagnostic) : List String :=
  match diagnostic.advice.help.filter (!·.isEmpty) with
  | some help => ["  help: " ++ help]
  | none => []

/-- The suggestions under a heading, if there are any. -/
def suggestionLines (diagnostic : Diagnostic) : List String :=
  match diagnostic.advice.suggestions.getD [] with
  | [] => []
  | suggestions => "  suggestions:" :: suggestions.map ("    - " ++ ·)

/-- The lines of a report. -/
def lines (diagnostic : Diagnostic) : Except Numeral.Unconvertible (List String) :=
  diagnostic.location.map fun location =>
    diagnostic.headline :: location :: (diagnostic.helpLines ++ diagnostic.suggestionLines)

/-- The text of a report, with a line break after every line. -/
def render (diagnostic : Diagnostic) : Except Numeral.Unconvertible String :=
  diagnostic.lines.map fun lines => String.join (lines.map (· ++ "\n"))

end Diagnostic

end LogicLexer
