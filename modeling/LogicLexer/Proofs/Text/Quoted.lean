import Mathlib.Tactic.SplitIfs
import LogicLexer.Proofs.Numeral.Printing
import LogicLexer.Text.Quoted

/-!
# Quoted texts are printable

Whatever a text consists of, between its quotation marks stand printable characters only: a
character that is not printable is written by name or by its code point. A line break is not
printable, so a quoted text never goes on to another line. Numerals are printable as well.

## Main definitions

* `Text.IsPrintable` — a text of printable characters

## Main results

* `isPrintable_hexadecimal`, `isPrintable_decimal` — numerals in either base
* `Text.isPrintable_quoted` — every text is printable once it is quoted
-/

namespace LogicLexer

variable {c : Char}

/-- The text consists of printable characters. -/
def Text.IsPrintable (text : Text) : Prop :=
  ∀ c ∈ text, isPrintable c = true

-- decided along the text, and not over all characters
instance (text : Text) : Decidable text.IsPrintable :=
  List.decidableBAll (isPrintable · = true) text

namespace Text.IsPrintable

variable {text other : Text}

theorem nil : IsPrintable [] := List.forall_mem_nil _

theorem cons (hc : isPrintable c = true) (h : IsPrintable text) : IsPrintable (c :: text) :=
  List.forall_mem_cons.2 ⟨hc, h⟩

theorem append (h : IsPrintable text) (hother : IsPrintable other) :
    IsPrintable (text ++ other) :=
  List.forall_mem_append.2 ⟨h, hother⟩

theorem map {f : Char → Char} (h : ∀ c ∈ text, isPrintable (f c) = true) :
    IsPrintable (text.map f) :=
  List.forall_mem_map.2 h

/-- A printable text has no line break. -/
theorem not_mem_newline (h : IsPrintable text) : '\n' ∉ text :=
  fun hmem => absurd (h '\n' hmem) (by decide)

end Text.IsPrintable

/-! ### Single characters -/

/-- The characters of a run in the table are printable. -/
theorem isPrintable_of_mem_printables {run : Nat × Nat} (hrun : run ∈ Unicode.printables)
    (hfirst : run.1 ≤ c.toNat) (hlast : c.toNat ≤ run.2) : isPrintable c = true := by
  rw [isPrintable, Unicode.isPrintable,
    Unicode.RangeTable.contains_iff Unicode.isAscending_printables]
  exact ⟨run, hrun, hfirst, hlast⟩

/-- Every digit is printable, in either case. -/
theorem isPrintable_digitChar : ∀ d < 16,
    isPrintable (Nat.digitChar d) = true ∧ isPrintable (Nat.digitChar d).toUpper = true := by
  decide

/-! ### Numerals -/

/-- The numeral of a number consists of the digits of its base. -/
theorem exists_digitChar_of_mem_toDigits {base n : Nat} (hbase : 1 < base)
    (h : c ∈ Nat.toDigits base n) : ∃ d < base, c = Nat.digitChar d := by
  induction n using Nat.strongRecOn with
  | ind n ih =>
    rcases Nat.lt_or_ge n base with hlt | hge
    · rw [Nat.toDigits_of_lt_base hlt, List.mem_singleton] at h
      exact ⟨n, hlt, h⟩
    · rw [Nat.toDigits_of_base_le hbase hge, List.mem_append, List.mem_singleton] at h
      rcases h with hlead | hlast
      · exact ih _ (Nat.div_lt_self (by omega) hbase) hlead
      · exact ⟨_, Nat.mod_lt n (by omega), hlast⟩

/-- The hexadecimal numerals consist of the sixteen digits. -/
theorem exists_digitChar_of_mem_hexadecimal {width n : Nat} (h : c ∈ hexadecimal width n) :
    ∃ d < 16, c = Nat.digitChar d := by
  rw [hexadecimal, List.leftpad, List.mem_append] at h
  rcases h with hpad | hdigit
  · exact ⟨0, by decide, List.eq_of_mem_replicate hpad⟩
  · exact exists_digitChar_of_mem_toDigits (by decide) hdigit

theorem isPrintable_hexadecimal (width n : Nat) : (hexadecimal width n).IsPrintable := by
  intro c hc
  obtain ⟨d, hd, rfl⟩ := exists_digitChar_of_mem_hexadecimal hc
  exact (isPrintable_digitChar d hd).1

/-- Upper-case digits are printable too. -/
theorem isPrintable_map_toUpper_hexadecimal (width n : Nat) :
    Text.IsPrintable ((hexadecimal width n).map Char.toUpper) := by
  refine .map fun c hc => ?_
  obtain ⟨d, hd, rfl⟩ := exists_digitChar_of_mem_hexadecimal hc
  exact (isPrintable_digitChar d hd).2

/-- A decimal numeral is printable, whatever its sign is. -/
theorem isPrintable_decimal (n : Int) : (Numeral.decimal n).IsPrintable := by
  have hdigits : Text.IsPrintable (Nat.toDigits 10 n.natAbs) := by
    intro c hc
    obtain ⟨d, hd, rfl⟩ := exists_digitChar_of_mem_toDigits (by decide) hc
    exact (isPrintable_digitChar d (by omega)).1
  rw [Numeral.decimal]
  split
  · exact .cons (by decide) hdigits
  · exact hdigits

/-! ### Quoted texts -/

namespace Text

theorem isPrintable_quoteMark (text : Text) : isPrintable text.quoteMark = true := by
  rw [quoteMark]
  split <;> decide

/-- The escape of a code point is printable. -/
theorem isPrintable_codePointEscape (c : Char) : (codePointEscape c).IsPrintable := by
  have hmark : isPrintable escapeMark = true := by decide
  rw [codePointEscape]
  split
  · exact .cons hmark (.cons (by decide) (isPrintable_hexadecimal 2 _))
  · split
    · exact .cons hmark (.cons (by decide) (isPrintable_hexadecimal 4 _))
    · exact .cons hmark (.cons (by decide) (isPrintable_hexadecimal 8 _))

/-- Between printable marks every character is written in printable characters. -/
theorem isPrintable_escape {mark : Char} (hmark : isPrintable mark = true) (c : Char) :
    (escape mark c).IsPrintable := by
  have hescape : isPrintable escapeMark = true := by decide
  rw [escape]
  split
  case isTrue hspecial =>
    -- the mark and the backslash stand for themselves behind a backslash
    refine .cons hescape (.cons ?_ .nil)
    rcases hspecial with rfl | rfl
    · exact hmark
    · exact hescape
  case isFalse =>
    split_ifs with hnewline hreturn htab hprintable
    · exact .cons hescape (.cons (by decide) .nil)
    · exact .cons hescape (.cons (by decide) .nil)
    · exact .cons hescape (.cons (by decide) .nil)
    · exact .cons hprintable .nil
    · exact isPrintable_codePointEscape c

/-- Every text is printable once it is quoted. -/
theorem isPrintable_quoted (text : Text) : text.quoted.IsPrintable := by
  have hmark := isPrintable_quoteMark text
  refine .cons hmark (.append ?_ (.cons hmark .nil))
  intro c hc
  obtain ⟨d, -, hd⟩ := List.mem_flatMap.1 hc
  exact isPrintable_escape hmark d c hd

/-- Both quotation marks, a backslash, a line break and a bell. -/
example : quoted ['\x27', '\x22', '\x5c', '\n', '\x07'] =
    ['\x27', '\x5c', '\x27', '\x22', '\x5c', '\x5c', '\x5c', 'n', '\x5c', 'x', '0', '7',
      '\x27'] := by
  decide

end Text

end LogicLexer
