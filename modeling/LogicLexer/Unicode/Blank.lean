import LogicLexer.Unicode.RangeTable

/-!
# Blanks

The code points that separate text: space separators (category Zs) and those whose
bidirectional class is white space, paragraph or segment separator, in version 14 of the
character database. The four information separators and the next-line control are
blanks; the zero-width space is not.
-/

namespace LogicLexer.Unicode

/-- The runs of blanks. -/
def blanks : RangeTable :=
  [(0x9, 0xD), (0x1C, 0x20), (0x85, 0x85), (0xA0, 0xA0), (0x1680, 0x1680), (0x2000, 0x200A),
   (0x2028, 0x2029), (0x202F, 0x202F), (0x205F, 0x205F), (0x3000, 0x3000)]

/-- The code point is a blank. -/
def isBlank (n : Nat) : Bool :=
  blanks.contains n

theorem isAscending_blanks : blanks.isAscending 0 = true := by decide +kernel

example : blanks.size = 29 := by decide +kernel

end LogicLexer.Unicode
