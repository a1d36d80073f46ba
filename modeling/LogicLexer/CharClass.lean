import LogicLexer.Text.Basic
import LogicLexer.Unicode.Letter
import LogicLexer.Unicode.DecimalDigit
import LogicLexer.Unicode.OtherNumeric
import LogicLexer.Unicode.Blank
import LogicLexer.Unicode.Printable

/-!
# Character classes

Five classes decide how a source is cut into tokens. A word begins with a letter or an
underscore and goes on with any letter or numeric character or an underscore, so a
superscript may stand inside a word but not begin one. A digit is a decimal digit of any
script. A blank separates tokens, and a symbol character is a token by itself.

## Main definitions

* `isWordStart`, `isWordPart`, `isDigit`, `isBlank`, `isSymbolChar` — the classes of a
  character
* `CharClass.holds` — the classes as a family
* `CharClass.covers` — a class asked of a whole text
* `CharClass.runs` — where in a range of code points a class holds

## Main results

* `isWordPart_of_isWordStart` — what may begin a word may go on with one
-/

namespace LogicLexer

/-- What a character is worth as a decimal digit. -/
def digitValue? (c : Char) : Option Nat :=
  Unicode.digitValue? c.toNat

/-- A decimal digit of any script. -/
def isDigit (c : Char) : Bool :=
  (digitValue? c).isSome

/-- A letter. -/
def isLetter (c : Char) : Bool :=
  Unicode.isLetter c.toNat

/-- A letter or any character with a numeric value. -/
def isAlphanumeric (c : Char) : Bool :=
  isLetter c || isDigit c || Unicode.isOtherNumeric c.toNat

/-- A character that a word may begin with. -/
def isWordStart (c : Char) : Bool :=
  isLetter c || c == '_'

/-- A character that a word may go on with. -/
def isWordPart (c : Char) : Bool :=
  isAlphanumeric c || c == '_'

/-- A character that separates tokens and belongs to none. -/
def isBlank (c : Char) : Bool :=
  Unicode.isBlank c.toNat

/-- A character that a report may show as it is. -/
def isPrintable (c : Char) : Bool :=
  Unicode.isPrintable c.toNat

/-- The characters that form a token by themselves. A hyphen is one of them, though an
angle after it makes an arrow of both. -/
def symbolChars : List Char :=
  ['(', ')', '[', ']', '<', '>', '+', '-', ',', '=', '%', '*', '/', ':',
   '∀', '∃', '→', '∧', '∨', '⊥', '¬']

/-- A character that forms a token by itself. -/
def isSymbolChar (c : Char) : Bool :=
  symbolChars.contains c

/-- Whatever may begin a word may also go on with one. -/
theorem isWordPart_of_isWordStart {c : Char} (h : isWordStart c = true) : isWordPart c = true := by
  simp only [isWordStart, Bool.or_eq_true] at h
  rcases h with h | h <;> simp [isWordPart, isAlphanumeric, h]

/-- The classes by which a source is cut into tokens. -/
inductive CharClass
  | wordPart
  | wordStart
  | digit
  | blank
  | symbol
  deriving DecidableEq, Repr

namespace CharClass

/-- Every class. -/
def all : List CharClass := [wordPart, wordStart, digit, blank, symbol]

/-- The character is in the class. -/
def holds : CharClass → Char → Bool
  | wordPart => isWordPart
  | wordStart => isWordStart
  | digit => isDigit
  | blank => isBlank
  | symbol => isSymbolChar

/-- The text is not empty and all its characters satisfy the predicate. -/
def allOf (p : Char → Bool) (text : Text) : Bool :=
  !text.isEmpty && text.all p

/-- The whole text is in the class. The underscore counts for a word only when it stands
alone, and a symbol is one character. -/
def covers : CharClass → Text → Bool
  | wordPart, text => allOf isAlphanumeric text || text == ['_']
  | wordStart, text => allOf isLetter text || text == ['_']
  | digit, text => allOf isDigit text
  | blank, text => allOf isBlank text
  | symbol, text => text.length == 1 && text.all isSymbolChar

/-- A code point is in the class if it is that of a character in the class. -/
def holdsAt (kind : CharClass) (n : Nat) : Bool :=
  if h : n.isValidChar then kind.holds (Char.ofNatAux n h) else false

/-- Extend the last run by the next code point if it is in the class, and begin or end
runs as needed. The runs found so far are kept last first. -/
def extendRuns (kind : CharClass) (found : List (Nat × Nat)) (n : Nat) : List (Nat × Nat) :=
  if kind.holdsAt n then
    -- a code point next to the last run belongs to that run
    match found with
    | (first, last) :: rest => if last + 1 = n then (first, n) :: rest else (n, n) :: found
    | [] => [(n, n)]
  else found

/-- The maximal runs of code points from `first` to `last` that are in the class. -/
def runs (kind : CharClass) (first last : Nat) : List (Nat × Nat) :=
  ((List.range' first (last + 1 - first)).foldl kind.extendRuns []).reverse

end CharClass

end LogicLexer
