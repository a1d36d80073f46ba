import LogicLexer.Proofs.Grammar.Lexeme

/-!
# The value of a numeral

A numeral splits at its point into two digit runs, and its token carries the positional
value of each. A zero taken as read before the numeral changes nothing.

## Main results

* `Lexeme.isDigit_of_mem_wholePart`, `Lexeme.isDigit_of_mem_fracPart` — the two parts of a
  numeral are digit runs
* `Lexeme.numeral_eq` — a numeral is worth the values of its two parts
* `Lexeme.numeral_of_one_lt_count`, `Lexeme.numeral_ne_lexical` — a second point makes a numeral
  malformed, and nothing else does
* `Lexeme.token_of_digits`, `Lexeme.token_of_two_runs` — the tokens of numerals that are put
  together from digit runs
-/

namespace LogicLexer.Lexeme

variable {text : Text} {c : Char}

theorem isDigit_of_isNumeralChar (h : isNumeralChar c = true) (hc : c ≠ point) :
    isDigit c = true := by
  simp only [isNumeralChar, Bool.or_eq_true, beq_iff_eq] at h
  exact h.resolve_right hc

/-- A text with characters in its fraction consists of its two parts and the point. -/
theorem eq_append_of_mem_fracPart (hc : c ∈ fracPart text) :
    text = wholePart text ++ point :: fracPart text := by
  cases hdrop : text.dropWhile (· != point) with
  | nil => simp [fracPart, hdrop] at hc
  | cons d rest =>
    -- the first character that is left is the one the search stopped at
    have hd : d = point := by simpa [hdrop] using List.head?_dropWhile_not (· != point) text
    have hfrac : fracPart text = rest := by rw [fracPart, hdrop, List.drop_one, List.tail_cons]
    rw [hfrac, ← hd, ← hdrop, wholePart, List.takeWhile_append_dropWhile]

/-- Before the point stand only digits. -/
theorem isDigit_of_mem_wholePart (h : ∀ d ∈ text, isNumeralChar d = true)
    (hc : c ∈ wholePart text) : isDigit c = true := by
  have hne : (c != point) = true := List.all_eq_true.1 List.all_takeWhile c hc
  refine isDigit_of_isNumeralChar (h c ?_) (by simpa using hne)
  exact List.takeWhile_subset _ hc

/-- After the point stand only digits, if no second point follows. -/
theorem isDigit_of_mem_fracPart (h : IsNumeral text) (hc : c ∈ fracPart text) :
    isDigit c = true := by
  have hsplit := eq_append_of_mem_fracPart hc
  have hmem : c ∈ text := by
    rw [hsplit]
    exact List.mem_append_right _ (List.mem_cons_of_mem _ hc)
  refine isDigit_of_isNumeralChar (h.2.1 c hmem) ?_
  rintro rfl
  -- the point between the parts and this one make two
  have hcount := h.2.2
  rw [hsplit, List.count_append, List.count_cons_self] at hcount
  have := List.one_le_count_iff.2 hc
  omega

theorem digitRun_eq (h : ∀ c ∈ text, isDigit c = true) :
    digitRun text = .ok (Numeral.positional text : Int) := by
  rw [digitRun, Numeral.read_eq h]
  rfl

/-- A numeral is worth the positional values of its two parts. -/
theorem numeral_eq (h : IsNumeral text) (source : Source) (offset : Int) :
    numeral text source offset = .ok (.number (Numeral.positional (wholePart text))
      (Numeral.positional (fracPart text)) text) := by
  rw [numeral, if_neg (Nat.not_lt.2 h.2.2)]
  simp only [digitRun_eq fun _ hc => isDigit_of_mem_wholePart h.2.1 hc,
    digitRun_eq fun _ hc => isDigit_of_mem_fracPart h hc]

/-- A second point makes a numeral malformed. -/
theorem numeral_of_one_lt_count (h : 1 < text.count point) {source : Source}
    (hsource : source.isEmpty = false) (offset : Int) :
    numeral text source offset = .error (.lexical (.malformedAt text source offset)) := by
  rw [numeral, if_pos h, hsource]
  rfl

theorem digitRun_ne_lexical (text : Text) (error : LexError) :
    digitRun text ≠ .error (.lexical error) := by
  rw [digitRun]
  cases Numeral.read text with
  | error block => exact fun h => Failure.noConfusion (Except.error.inj h)
  | ok value => exact nofun

/-- A text is refused as a numeral for nothing but a second point. -/
theorem numeral_ne_lexical (h : text.count point ≤ 1) (source : Source) (offset : Int)
    (error : LexError) : numeral text source offset ≠ .error (.lexical error) := by
  rw [numeral, if_neg (Nat.not_lt.2 h)]
  intro hlexical
  cases hwhole : digitRun (wholePart text) with
  | error failure =>
    obtain rfl : failure = .lexical error := Except.error.inj (by rwa [hwhole] at hlexical)
    exact digitRun_ne_lexical _ error hwhole
  | ok whole =>
    cases hfrac : digitRun (fracPart text) with
    | error failure =>
      obtain rfl : failure = .lexical error :=
        Except.error.inj (by rwa [hwhole, hfrac] at hlexical)
      exact digitRun_ne_lexical _ error hfrac
    | ok frac =>
      rw [hwhole, hfrac] at hlexical
      cases hlexical

/-! ### A zero before a numeral -/

theorem isNumeral_zero_cons (h : IsNumeral text) : IsNumeral ('0' :: text) := by
  refine ⟨List.cons_ne_nil _ _, ?_, ?_⟩
  · intro c hc
    rcases List.mem_cons.1 hc with rfl | hc
    · decide
    · exact h.2.1 c hc
  · rw [List.count_cons_of_ne (by decide)]
    exact h.2.2

/-- A zero before a numeral does not count. -/
theorem positional_wholePart_zero_cons (text : Text) :
    Numeral.positional (wholePart ('0' :: text)) = Numeral.positional (wholePart text) := by
  rw [wholePart, List.takeWhile_cons_of_pos (by decide)]
  exact Numeral.positional_append ['0'] (wholePart text) |>.trans (by
    rw [show Numeral.positional ['0'] = 0 by decide, Nat.zero_mul, Nat.zero_add])

theorem fracPart_zero_cons (text : Text) : fracPart ('0' :: text) = fracPart text := by
  rw [fracPart, List.dropWhile_cons_of_pos (by decide)]
  rfl

/-! ### Numerals put together from digit runs -/

variable {whole frac : Text}

theorem ne_point_of_isDigit (h : isDigit c = true) : c ≠ point :=
  ne_of_class h rfl

theorem isNumeralChar_of_isDigit (h : isDigit c = true) : isNumeralChar c = true := by
  rw [isNumeralChar, h, Bool.true_or]

theorem count_point_of_isDigit (h : ∀ c ∈ text, isDigit c = true) : text.count point = 0 :=
  List.count_eq_zero.2 fun hmem => ne_point_of_isDigit (h point hmem) rfl

/-- A digit run is a numeral without a point. -/
theorem token_of_digits (config : Config) (hne : text ≠ []) (h : ∀ c ∈ text, isDigit c = true) :
    IsNumeral text ∧ token config text = .number (Numeral.positional text) 0 text := by
  have hnumeral : IsNumeral text := by
    refine ⟨hne, fun c hc => isNumeralChar_of_isDigit (h c hc), ?_⟩
    rw [count_point_of_isDigit h]
    exact Nat.zero_le 1
  have hbefore : ∀ c ∈ text, (c != point) = true := by
    intro c hc
    simpa using ne_point_of_isDigit (h c hc)
  have hwhole : wholePart text = text := by
    rw [wholePart, ← List.append_nil text, List.takeWhile_append_of_pos hbefore]
    rfl
  have hfrac : fracPart text = [] := by
    rw [fracPart, ← List.append_nil text, List.dropWhile_append_of_pos hbefore]
    rfl
  refine ⟨hnumeral, ?_⟩
  rw [token_of_isNumeral config hnumeral, hwhole, hfrac]
  rfl

/-- Two digit runs with a point between them are a numeral with these two parts. -/
theorem token_of_two_runs (config : Config) (hwhole : ∀ c ∈ whole, isDigit c = true)
    (hfrac : ∀ c ∈ frac, isDigit c = true) :
    IsNumeral (whole ++ point :: frac) ∧ token config (whole ++ point :: frac) =
      .number (Numeral.positional whole) (Numeral.positional frac) (whole ++ point :: frac) := by
  have hnumeral : IsNumeral (whole ++ point :: frac) := by
    refine ⟨by simp, ?_, ?_⟩
    · rw [List.forall_mem_append, List.forall_mem_cons]
      exact ⟨fun c hc => isNumeralChar_of_isDigit (hwhole c hc), by decide,
        fun c hc => isNumeralChar_of_isDigit (hfrac c hc)⟩
    · have hcount : (whole ++ point :: frac).count point = 1 := by
        rw [List.count_append, List.count_cons_self, count_point_of_isDigit hwhole,
          count_point_of_isDigit hfrac]
      exact Nat.le_of_eq hcount
  have hbefore : ∀ c ∈ whole, (c != point) = true := by
    intro c hc
    simpa using ne_point_of_isDigit (hwhole c hc)
  have hwholePart : wholePart (whole ++ point :: frac) = whole := by
    rw [wholePart, List.takeWhile_append_of_pos hbefore, List.takeWhile_cons_of_neg (by simp),
      List.append_nil]
  have hfracPart : fracPart (whole ++ point :: frac) = frac := by
    rw [fracPart, List.dropWhile_append_of_pos hbefore, List.dropWhile_cons_of_neg (by simp)]
    rfl
  refine ⟨hnumeral, ?_⟩
  rw [token_of_isNumeral config hnumeral, hwholePart, hfracPart]

end LogicLexer.Lexeme
