import LogicLexer.Proofs.Numeral.Reading

/-!
# Where a lexeme ends

A lexeme shows its kind in its first character. So of two lexemes at the front of one
text, the longer goes on from the shorter with a character that extends it, and a lexeme
that nothing extends is the only one that may stand there.

## Main results

* `Lexeme.exists_cons_of_isLexeme` — a lexeme begins with a character that is no blank
* `Lexeme.not_isNumeral_of_isWord`, `Lexeme.not_isSymbol_of_isWord`,
  `Lexeme.not_isSymbol_of_isNumeral` — no lexeme is of two kinds
* `Lexeme.extends_iff_of_isWord`, `Lexeme.extends_iff_of_isNumeral`,
  `Lexeme.extends_iff_of_isSymbol` — what goes on with a lexeme of each kind
* `Lexeme.extends_of_isLexeme_append` — a longer lexeme extends a shorter one
* `Lexeme.eq_of_append_eq` — a text begins with at most one lexeme that nothing extends
-/

namespace LogicLexer.Lexeme

variable {text : Text} {c : Char}

/-! ### Gaps -/

theorem isGap_nil : IsGap [] := fun _ hc => absurd hc List.not_mem_nil

theorem isGap_append {left right : Text} : IsGap (left ++ right) ↔ IsGap left ∧ IsGap right :=
  List.forall_mem_append

/-! ### The kinds of lexemes -/

theorem isNumeral_cons_head {rest : Text} (h : IsNumeral (c :: rest)) :
    isNumeralChar c = true :=
  h.2.1 c List.mem_cons_self

theorem isSymbol_cons_head {rest : Text} (h : IsSymbol (c :: rest)) : isSymbolChar c = true := by
  rcases h with h | ⟨d, hd, h⟩
  · rw [(List.cons.inj h).1]
    decide
  · rw [(List.cons.inj h).1]
    exact List.contains_iff_mem.2 hd

/-- A lexeme begins with a character that is no blank. -/
theorem exists_cons_of_isLexeme (h : IsLexeme text) :
    ∃ c rest, text = c :: rest ∧ isBlank c = false := by
  cases text with
  | nil =>
    rcases h with hword | hnumeral | hsymbol
    · exact absurd hword not_isWord_nil
    · exact absurd rfl hnumeral.1
    · simp [IsSymbol] at hsymbol
  | cons c rest =>
    refine ⟨c, rest, rfl, ?_⟩
    rcases h with hword | hnumeral | hsymbol
    · exact isBlank_eq_false_of_isWordPart (isWordPart_of_isWordStart hword.1)
    · exact isBlank_eq_false_of_isNumeralChar (isNumeral_cons_head hnumeral)
    · exact isBlank_eq_false_of_isSymbolChar (isSymbol_cons_head hsymbol)

/-- No character of a lexeme is a blank. -/
theorem isBlank_eq_false_of_mem_isLexeme (h : IsLexeme text) (hc : c ∈ text) :
    isBlank c = false := by
  rcases h with hword | hnumeral | hsymbol
  · cases text with
    | nil => exact absurd hword not_isWord_nil
    | cons first rest =>
      rcases List.mem_cons.1 hc with rfl | hc
      · exact isBlank_eq_false_of_isWordPart (isWordPart_of_isWordStart hword.1)
      · exact isBlank_eq_false_of_isWordPart (hword.2 c hc)
  · exact isBlank_eq_false_of_isNumeralChar (hnumeral.2.1 c hc)
  · rcases hsymbol with rfl | ⟨d, hd, rfl⟩
    · rcases List.mem_cons.1 hc with rfl | hc
      · decide
      · rw [List.mem_singleton.1 hc]
        decide
    · rw [List.mem_singleton.1 hc]
      exact isBlank_eq_false_of_isSymbolChar (List.contains_iff_mem.2 hd)

theorem ne_nil_of_isLexeme (h : IsLexeme text) : text ≠ [] := by
  obtain ⟨c, rest, rfl, -⟩ := exists_cons_of_isLexeme h
  exact List.cons_ne_nil c rest

/-- No word is a numeral. -/
theorem not_isNumeral_of_isWord (h : IsWord text) : ¬ IsNumeral text := by
  intro hnumeral
  cases text with
  | nil => exact not_isWord_nil h
  | cons first rest =>
    have := isNumeral_cons_head hnumeral
    simp [isNumeralChar_eq_false_of_isWordStart h.1] at this

/-- No word is a symbol. -/
theorem not_isSymbol_of_isWord (h : IsWord text) : ¬ IsSymbol text := by
  intro hsymbol
  cases text with
  | nil => exact not_isWord_nil h
  | cons first rest =>
    have := isSymbol_cons_head hsymbol
    simp [isSymbolChar_eq_false_of_isWordStart h.1] at this

/-- No numeral is a symbol. -/
theorem not_isSymbol_of_isNumeral (h : IsNumeral text) : ¬ IsSymbol text := by
  intro hsymbol
  cases text with
  | nil => exact h.1 rfl
  | cons first rest =>
    have := isSymbol_cons_head hsymbol
    simp [isSymbolChar_eq_false_of_isNumeralChar (isNumeral_cons_head h)] at this

/-- What begins like a word is a word. -/
theorem isWord_of_isLexeme {rest : Text} (h : IsLexeme (c :: rest)) (hc : isWordStart c = true) :
    IsWord (c :: rest) := by
  rcases h with hword | hnumeral | hsymbol
  · exact hword
  · exact absurd (isNumeral_cons_head hnumeral)
      (by simp [isNumeralChar_eq_false_of_isWordStart hc])
  · exact absurd (isSymbol_cons_head hsymbol) (by simp [isSymbolChar_eq_false_of_isWordStart hc])

/-- What begins like a numeral is a numeral. -/
theorem isNumeral_of_isLexeme {rest : Text} (h : IsLexeme (c :: rest))
    (hc : isNumeralChar c = true) : IsNumeral (c :: rest) := by
  rcases h with hword | hnumeral | hsymbol
  · exact absurd hc (by simp [isNumeralChar_eq_false_of_isWordStart hword.1])
  · exact hnumeral
  · exact absurd (isSymbol_cons_head hsymbol)
      (by simp [isSymbolChar_eq_false_of_isNumeralChar hc])

/-! ### The token of a lexeme -/

/-- The token of a lexeme carries the lexeme. -/
theorem token_lexeme (config : Config) (text : Text) : (token config text).lexeme = text := by
  rw [token]
  split
  · rfl
  · rcases config.resolve_eq text with hword | ⟨symbol, hsymbol⟩
    · rw [hword]
      rfl
    · rw [hsymbol]
      rfl

/-- The parts of a text lie on either side of its first point. -/
theorem parts_eq (text : Text) : parts text = (wholePart text, fracPart text) := by
  induction text with
  | nil => rfl
  | cons c rest ih =>
    rw [parts, ih]
    by_cases hpoint : c = point
    · simp [hpoint, wholePart, fracPart]
    · simp [hpoint, wholePart, fracPart]

theorem token_of_isNumeral (config : Config) (h : IsNumeral text) :
    token config text =
      .number (Numeral.positional (wholePart text)) (Numeral.positional (fracPart text)) text := by
  rw [token, if_pos h, parts_eq]

theorem token_of_not_isNumeral (config : Config) (h : ¬ IsNumeral text) :
    token config text = config.resolve text :=
  if_neg h

/-! ### Maximal lexemes -/

/-- A blank extends no lexeme. -/
theorem not_extends_of_isBlank (h : isBlank c = true) : ¬ Extends text c := by
  rintro (⟨-, hc⟩ | ⟨-, hc⟩ | ⟨-, rfl⟩)
  · simp [isBlank_eq_false_of_isWordPart hc] at h
  · simp [isBlank_eq_false_of_isNumeralChar hc] at h
  · exact absurd h (by decide)

/-- A word goes on with the characters of words. -/
theorem extends_iff_of_isWord (h : IsWord text) : Extends text c ↔ isWordPart c = true := by
  constructor
  · rintro (⟨-, hc⟩ | ⟨hnumeral, -⟩ | ⟨rfl, -⟩)
    · exact hc
    · exact absurd hnumeral (not_isNumeral_of_isWord h)
    · exact absurd h (by decide)
  · intro hc
    exact .inl ⟨h, hc⟩

/-- A numeral goes on with digits and points. -/
theorem extends_iff_of_isNumeral (h : IsNumeral text) :
    Extends text c ↔ isNumeralChar c = true := by
  constructor
  · rintro (⟨hword, -⟩ | ⟨-, hc⟩ | ⟨rfl, -⟩)
    · exact absurd h (not_isNumeral_of_isWord hword)
    · exact hc
    · exact absurd h (by decide)
  · intro hc
    exact .inr (.inl ⟨h, hc⟩)

/-- Only the hyphen goes on from a symbol, and only with the angle of the arrow. -/
theorem extends_iff_of_isSymbol (h : IsSymbol text) :
    Extends text c ↔ text = ['-'] ∧ c = '>' := by
  constructor
  · rintro (⟨hword, -⟩ | ⟨hnumeral, -⟩ | hangle)
    · exact absurd h (not_isSymbol_of_isWord hword)
    · exact absurd h (not_isSymbol_of_isNumeral hnumeral)
    · exact hangle
  · intro hangle
    exact .inr (.inr hangle)

/-- A lexeme that goes on from a shorter one extends it by its next character. -/
theorem extends_of_isLexeme_append {rest : Text} (hshort : IsLexeme text)
    (hlong : IsLexeme (text ++ c :: rest)) : Extends text c := by
  obtain ⟨first, tail, rfl, -⟩ := exists_cons_of_isLexeme hshort
  have hmem : c ∈ tail ++ c :: rest := List.mem_append_right _ List.mem_cons_self
  rcases hlong with hword | hnumeral | hsymbol
  · exact .inl ⟨isWord_of_isLexeme hshort hword.1, hword.2 c hmem⟩
  · exact .inr (.inl ⟨isNumeral_of_isLexeme hshort (isNumeral_cons_head hnumeral),
      hnumeral.2.1 c (List.mem_cons_of_mem _ hmem)⟩)
  · -- only the arrow has a shorter lexeme at its front
    rcases hsymbol with harrow | ⟨d, -, hsingle⟩
    · cases tail <;> simp_all [Extends]
    · simp at hsingle

/-- A text begins with at most one lexeme that its next character does not extend. -/
theorem eq_of_append_eq {left right lrest rrest : Text} (hleft : IsLexeme left)
    (hright : IsLexeme right) (htext : left ++ lrest = right ++ rrest)
    (hlrest : ∀ c ∈ lrest.head?, ¬ Extends left c) (hrrest : ∀ c ∈ rrest.head?, ¬ Extends right c) :
    left = right := by
  -- one of the two is a prefix of the other, and would be extended if it were a proper one
  rcases List.append_eq_append_iff.1 htext with ⟨more, hr, hl⟩ | ⟨more, hl, hr⟩
  · cases more with
    | nil => rw [hr, List.append_nil]
    | cons c more =>
      have := extends_of_isLexeme_append hleft (hr ▸ hright)
      exact absurd this (hlrest c (by simp [hl]))
  · cases more with
    | nil => rw [hl, List.append_nil]
    | cons c more =>
      have := extends_of_isLexeme_append hright (hl ▸ hleft)
      exact absurd this (hrrest c (by simp [hr]))

end LogicLexer.Lexeme
