import LogicLexer.CharClass

/-!
# Scanning modes

What a scanner is in the middle of. The first character of a token settles which mode is
entered, and from then on each mode says which characters it goes on with.

## Main definitions

* `Mode` — the modes, in listed order
* `Mode.opening?` — the mode that a character opens
* `Mode.following?` — the mode after a further character of the same token
* `Mode.seed` — what is taken as read before the first character
-/

namespace LogicLexer

/-- What a scanner is in the middle of: nothing yet, a word, the digits before or after
a point, a symbol of one character, or a hyphen that may become an arrow. -/
inductive Mode
  | start
  | identifier
  | numeric
  | numericPoint
  | single
  | possibleArrow
  deriving DecidableEq, Repr

namespace Mode

/-- Every mode, in listed order. -/
def all : List Mode := [start, identifier, numeric, numericPoint, single, possibleArrow]

/-- The name of a mode. -/
def label : Mode → String
  | start => "START"
  | identifier => "IDENTIFIER"
  | numeric => "NUMERIC"
  | numericPoint => "NUMERIC_POINT"
  | single => "SINGLE"
  | possibleArrow => "POSSIBLE_ARROW"

/-- The mode that a character opens, if a token may begin with it. -/
def opening? (c : Char) : Option Mode :=
  if c = '.' then some numericPoint
  else if c = '-' then some possibleArrow
  else if isWordStart c then some identifier
  else if isDigit c then some numeric
  else if isSymbolChar c then some single
  else none

/-- A numeral that begins with its point is read as if a zero stood before it. -/
def seed (c : Char) : Array Char :=
  if c = '.' then #['0'] else #[]

/-- The mode after one more character, if the token goes on with it. Points after the
first are taken in as well, so that the whole malformed numeral can be reported. -/
def following? : Mode → Char → Option Mode
  | identifier, c => if isWordPart c then some identifier else none
  | numeric, c =>
    if isDigit c then some numeric else if c = '.' then some numericPoint else none
  | numericPoint, c => if isDigit c || c == '.' then some numericPoint else none
  | _, _ => none

/-- The character ends the token and belongs to it: the second half of an arrow. -/
def isClosedBy : Mode → Char → Bool
  | possibleArrow, c => c == '>'
  | _, _ => false

end Mode

end LogicLexer
