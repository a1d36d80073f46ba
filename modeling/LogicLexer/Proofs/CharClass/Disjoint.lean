import LogicLexer.Grammar.Lexeme

/-!
# Disjointness of the character classes

The first character of a lexeme decides whether it is a word, a numeral or a symbol, and
a blank belongs to no lexeme. Both rest on the tables of the character database: letters
and digits have no code point in common, and neither they nor the other numeric
characters contain a blank.

## Main definitions

* `Unicode.RangeTable.misses`, `Unicode.RangeTable.isApartFrom` — a run, or a whole table,
  without a code point in common with a table
* `Unicode.digitRuns` — the decimal digits as a table of runs

## Main results

* `isNumeralChar_eq_false_of_isWordStart`, `isSymbolChar_eq_false_of_isWordStart`,
  `isSymbolChar_eq_false_of_isNumeralChar` — no character begins lexemes of two kinds
* `isBlank_eq_false_of_isWordPart`, `isBlank_eq_false_of_isNumeralChar`,
  `isBlank_eq_false_of_isSymbolChar` — no blank belongs to a lexeme
-/

namespace LogicLexer

namespace Unicode

namespace RangeTable

/-- The run meets none of the table. Like a lookup, the search stops at the first run that
begins after it. -/
def misses : RangeTable → Nat × Nat → Bool
  | [], _ => true
  | (first, last) :: rest, run =>
    Nat.blt run.2 first || (Nat.blt last run.1 && misses rest run)

/-- No run of the one table meets a run of the other. -/
def isApartFrom (left right : RangeTable) : Bool :=
  left.all right.misses

/-- A member of a run that misses the table is not in the table. -/
theorem contains_eq_false_of_misses {table : RangeTable} {run : Nat × Nat} {n : Nat}
    (hmisses : table.misses run = true) (hfirst : run.1 ≤ n) (hlast : n ≤ run.2) :
    table.contains n = false := by
  induction table with
  | nil => rfl
  | cons head rest ih =>
    simp only [misses, Bool.or_eq_true, Bool.and_eq_true, Nat.blt_eq] at hmisses
    simp only [contains]
    -- the search either stops at this run, which begins too late, or passes over it
    rcases hmisses with hafter | ⟨hbefore, hrest⟩
    · rw [if_pos (by omega)]
    · split
      · rfl
      · rw [ih hrest, decide_eq_false (by omega)]
        rfl

/-- A member of a run of one table is in no table apart from it. -/
theorem contains_eq_false_of_isApartFrom {left right : RangeTable} {n : Nat}
    (hapart : left.isApartFrom right = true) (hn : ∃ run ∈ left, run.1 ≤ n ∧ n ≤ run.2) :
    right.contains n = false := by
  obtain ⟨run, hrun, hfirst, hlast⟩ := hn
  exact contains_eq_false_of_misses (List.all_eq_true.1 hapart run hrun) hfirst hlast

end RangeTable

/-- The decimal digits of every script as runs of ten. -/
def digitRuns : RangeTable :=
  zeros.map fun base => (base, base + 9)

theorem exists_block_of_digitValueIn? {starts : List Nat} {n : Nat}
    (h : (digitValueIn? starts n).isSome = true) : ∃ base ∈ starts, base ≤ n ∧ n ≤ base + 9 := by
  induction starts with
  | nil => simp [digitValueIn?] at h
  | cons base rest ih =>
    simp only [digitValueIn?] at h
    -- the search stops at the first base above the code point
    split at h
    · simp at h
    · split at h
      · exact ⟨base, List.mem_cons_self, by omega, by omega⟩
      · obtain ⟨other, hother, hn⟩ := ih h
        exact ⟨other, List.mem_cons_of_mem _ hother, hn⟩

/-- A code point with a digit value lies in one of the runs of ten. -/
theorem exists_run_of_digitValue? {n : Nat} (h : (digitValue? n).isSome = true) :
    ∃ run ∈ digitRuns, run.1 ≤ n ∧ n ≤ run.2 := by
  obtain ⟨base, hbase, hn⟩ := exists_block_of_digitValueIn? h
  exact ⟨(base, base + 9), List.mem_map_of_mem hbase, hn⟩

theorem digitRuns_isApartFrom_letters : digitRuns.isApartFrom letters = true := by
  decide +kernel

theorem digitRuns_isApartFrom_blanks : digitRuns.isApartFrom blanks = true := by
  decide

theorem blanks_isApartFrom_letters : blanks.isApartFrom letters = true := by
  decide +kernel

theorem blanks_isApartFrom_otherNumerics : blanks.isApartFrom otherNumerics = true := by
  decide

end Unicode

open Lexeme

/-- A character of a class differs from any character outside it. -/
theorem ne_of_class {p : Char → Bool} {c d : Char} (hc : p c = true) (hd : p d = false) :
    c ≠ d := by
  rintro rfl
  exact Bool.false_ne_true (hd.symm.trans hc)

/-- A digit is no letter. -/
theorem isLetter_eq_false_of_isDigit {c : Char} (h : isDigit c = true) : isLetter c = false :=
  Unicode.RangeTable.contains_eq_false_of_isApartFrom Unicode.digitRuns_isApartFrom_letters
    (Unicode.exists_run_of_digitValue? h)

/-- A digit is no blank. -/
theorem isBlank_eq_false_of_isDigit {c : Char} (h : isDigit c = true) : isBlank c = false :=
  Unicode.RangeTable.contains_eq_false_of_isApartFrom Unicode.digitRuns_isApartFrom_blanks
    (Unicode.exists_run_of_digitValue? h)

/-- The symbol characters begin neither a word nor a numeral and are no blanks. -/
theorem of_mem_symbolChars : ∀ c ∈ symbolChars,
    isWordStart c = false ∧ isNumeralChar c = false ∧ isBlank c = false := by
  have hall : symbolChars.all (fun c =>
      decide (isWordStart c = false ∧ isNumeralChar c = false ∧ isBlank c = false)) = true := by
    decide +kernel
  intro c hc
  exact of_decide_eq_true (List.all_eq_true.1 hall c hc)

/-- No character begins both a word and a numeral. -/
theorem isNumeralChar_eq_false_of_isWordStart {c : Char} (h : isWordStart c = true) :
    isNumeralChar c = false := by
  rw [Bool.eq_false_iff]
  intro hnumeral
  simp only [isNumeralChar, Bool.or_eq_true, beq_iff_eq] at hnumeral
  rcases hnumeral with hdigit | rfl
  · -- no digit is a letter, so it would have to be the underscore
    simp only [isWordStart, isLetter_eq_false_of_isDigit hdigit, Bool.false_or, beq_iff_eq] at h
    subst h
    exact absurd hdigit (by decide)
  · exact absurd h (by decide)

/-- No character begins both a word and a symbol. -/
theorem isSymbolChar_eq_false_of_isWordStart {c : Char} (h : isWordStart c = true) :
    isSymbolChar c = false := by
  rw [Bool.eq_false_iff]
  intro hsymbol
  have := (of_mem_symbolChars c (List.contains_iff_mem.1 hsymbol)).1
  simp [this] at h

/-- No character begins both a numeral and a symbol. -/
theorem isSymbolChar_eq_false_of_isNumeralChar {c : Char} (h : isNumeralChar c = true) :
    isSymbolChar c = false := by
  rw [Bool.eq_false_iff]
  intro hsymbol
  have := (of_mem_symbolChars c (List.contains_iff_mem.1 hsymbol)).2.1
  simp [this] at h

/-- No blank goes on with a word. -/
theorem isBlank_eq_false_of_isWordPart {c : Char} (h : isWordPart c = true) :
    isBlank c = false := by
  rw [Bool.eq_false_iff]
  intro hblank
  have hrun := (Unicode.RangeTable.contains_iff Unicode.isAscending_blanks c.toNat).1 hblank
  have hletter : isLetter c = false :=
    Unicode.RangeTable.contains_eq_false_of_isApartFrom Unicode.blanks_isApartFrom_letters hrun
  have hother : Unicode.isOtherNumeric c.toNat = false :=
    Unicode.RangeTable.contains_eq_false_of_isApartFrom Unicode.blanks_isApartFrom_otherNumerics
      hrun
  -- of the characters of words only digits and the underscore are left
  simp only [isWordPart, isAlphanumeric, hletter, hother, Bool.false_or, Bool.or_false,
    Bool.or_eq_true, beq_iff_eq] at h
  rcases h with hdigit | rfl
  · simp [isBlank_eq_false_of_isDigit hdigit] at hblank
  · exact absurd hblank (by decide)

/-- No blank belongs to a numeral. -/
theorem isBlank_eq_false_of_isNumeralChar {c : Char} (h : isNumeralChar c = true) :
    isBlank c = false := by
  simp only [isNumeralChar, Bool.or_eq_true, beq_iff_eq] at h
  rcases h with hdigit | rfl
  · exact isBlank_eq_false_of_isDigit hdigit
  · decide

/-- No blank is a symbol. -/
theorem isBlank_eq_false_of_isSymbolChar {c : Char} (h : isSymbolChar c = true) :
    isBlank c = false :=
  (of_mem_symbolChars c (List.contains_iff_mem.1 h)).2.2

end LogicLexer
