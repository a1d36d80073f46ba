import LogicLexer.CharClass

/-!
# Quoted texts

A report shows a piece of source between quotation marks, on one line and in printable
characters only. The mark is the apostrophe unless the text has an apostrophe and no
double quote. The mark and the backslash are escaped by a backslash, the three common
controls by name, and every other character that is not printable by its code point in
hexadecimal.

## Main definitions

* `Text.quoteMark` — the mark that a text is quoted with
* `Text.escape` — how one character is written between such marks
* `Text.quoted` — the quoted text
* `Text.preview` — a text cut to a length that fits a report
-/

namespace LogicLexer

/-- A number in base sixteen, in lower-case digits and padded with zeros to the width. -/
def hexadecimal (width n : Nat) : Text :=
  (Nat.toDigits 16 n).leftpad width '0'

namespace Text

/-- The mark that keeps the fewest escapes: an apostrophe unless only it occurs in the
text. -/
def quoteMark (text : Text) : Char :=
  if text.contains '\x27' && !text.contains '\x22' then '\x22' else '\x27'

/-- The backslash that introduces an escape. -/
def escapeMark : Char := '\x5c'

/-- The escape of a character that is not printable, as wide as its code point needs. -/
def codePointEscape (c : Char) : Text :=
  if c.toNat < 0x100 then escapeMark :: 'x' :: hexadecimal 2 c.toNat
  else if c.toNat < 0x10000 then escapeMark :: 'u' :: hexadecimal 4 c.toNat
  else escapeMark :: 'U' :: hexadecimal 8 c.toNat

/-- How a character is written between the marks. -/
def escape (mark c : Char) : Text :=
  if c = mark ∨ c = escapeMark then [escapeMark, c]
  else if c = '\n' then [escapeMark, 'n']
  else if c = '\r' then [escapeMark, 'r']
  else if c = '\t' then [escapeMark, 't']
  else if isPrintable c then [c]
  else codePointEscape c

/-- The text between quotation marks. -/
def quoted (text : Text) : Text :=
  text.quoteMark :: (text.flatMap (escape text.quoteMark) ++ [text.quoteMark])

/-- The first characters of a text, with three dots in place of the others. -/
def preview (limit : Nat) (text : Text) : Text :=
  if text.length ≤ limit then text else text.take limit ++ ['.', '.', '.']

end Text

end LogicLexer
