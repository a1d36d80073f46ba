import LogicLexer.Proofs.Scanner.Scan

/-!
# Scanning a lexeme

A scan takes in the whole lexeme ahead if nothing extends it, and comes to its token. The
first character settles the mode, and in that mode the scanner goes on for as long as the
lexeme does.

## Main definitions

* `Lexeme.seeded` — a numeral as it is taken in, with a zero before a leading point

## Main results

* `scan_of_numeralRun` — digits and points are taken in together and read as a numeral
* `scan_of_isLexeme`, `scan_of_gap_lexeme`, `scan_of_lexeme` — a lexeme that nothing extends
  becomes its token
-/

namespace LogicLexer

open Lexeme Scanner

namespace Lexeme

/-- A numeral as a scanner takes it in: a zero is put before a leading point. -/
def seeded : Text → Text
  | [] => []
  | c :: rest => if c = point then '0' :: c :: rest else c :: rest

theorem toList_seed_push_append (c : Char) (rest : Text) :
    ((Mode.seed c).push c ++ rest.toArray).toList = seeded (c :: rest) := by
  by_cases hpoint : c = point
  · have hseed : Mode.seed c = #['0'] := if_pos hpoint
    rw [hseed, seeded, if_pos hpoint]
    simp
  · have hseed : Mode.seed c = #[] := if_neg hpoint
    rw [hseed, seeded, if_neg hpoint]
    simp

/-- Only a leading point is preceded by a zero. -/
theorem seeded_cons_of_ne {c : Char} (h : c ≠ point) (rest : Text) :
    seeded (c :: rest) = c :: rest :=
  if_neg h

theorem seeded_point_cons (rest : Text) : seeded (point :: rest) = '0' :: point :: rest := by
  rw [seeded, if_pos rfl]

/-- What is taken in after the first character is taken in as it is. -/
theorem seeded_concat {text : Text} (hne : text ≠ []) (c : Char) :
    seeded (text ++ [c]) = seeded text ++ [c] := by
  obtain ⟨d, tail, rfl⟩ := List.exists_cons_of_ne_nil hne
  rw [List.cons_append, seeded, seeded]
  split <;> rfl

theorem count_point_seeded (text : Text) : (seeded text).count point = text.count point := by
  cases text with
  | nil => rfl
  | cons c rest =>
    rw [seeded]
    split
    · exact List.count_cons_of_ne (by decide)
    · rfl

/-- The zero before a leading point does not change what a numeral is worth. -/
theorem numeral_seeded {text : Text} (h : IsNumeral text) (source : Source) (offset : Int) :
    numeral (seeded text) source offset = .ok (.number (Numeral.positional (wholePart text))
      (Numeral.positional (fracPart text)) (seeded text)) := by
  cases text with
  | nil => exact absurd rfl h.1
  | cons c rest =>
    rw [seeded]
    split
    · rw [numeral_eq (isNumeral_zero_cons h), positional_wholePart_zero_cons, fracPart_zero_cons]
    · exact numeral_eq h source offset

end Lexeme

/-! ### The mode that a lexeme opens -/

namespace Mode

variable {c : Char}

theorem opening?_of_isWordStart (h : isWordStart c = true) : opening? c = some identifier := by
  have hpoint : c ≠ '.' := ne_of_class h rfl
  have hhyphen : c ≠ '-' := ne_of_class h rfl
  rw [opening?, if_neg hpoint, if_neg hhyphen, if_pos h]

theorem opening?_of_isDigit (h : isDigit c = true) : opening? c = some numeric := by
  have hword : ¬ isWordStart c = true := by
    intro hword
    have := isNumeralChar_eq_false_of_isWordStart hword
    simp [isNumeralChar, h] at this
  have hpoint : c ≠ '.' := ne_of_class h rfl
  have hhyphen : c ≠ '-' := ne_of_class h rfl
  rw [opening?, if_neg hpoint, if_neg hhyphen, if_neg hword, if_pos h]

theorem opening?_of_isSymbolChar (h : isSymbolChar c = true) (hne : c ≠ '-') :
    opening? c = some single := by
  obtain ⟨hword, hnumeral, -⟩ := of_mem_symbolChars c (List.contains_iff_mem.1 h)
  have hclasses : isDigit c = false ∧ c ≠ '.' := by
    simpa [isNumeralChar, point] using hnumeral
  rw [opening?, if_neg hclasses.2, if_neg hne, if_neg (by simp [hword]),
    if_neg (by simp [hclasses.1]), if_pos h]

theorem opening?_of_isStray (h : IsStray c) : opening? c = none := by
  obtain ⟨-, hpoint, hword, hdigit, hsymbol⟩ := h
  have hpoint : c ≠ '.' := hpoint
  have hhyphen : '-' ≠ c := ne_of_class (p := isSymbolChar) rfl hsymbol
  rw [opening?, if_neg hpoint, if_neg hhyphen.symm, if_neg (by simp [hword]),
    if_neg (by simp [hdigit]), if_neg (by simp [hsymbol])]

/-- No digit or point follows a numeral that has ended. -/
theorem following?_of_isNumeralChar_eq_false {mode : Mode}
    (hmode : mode = numeric ∨ mode = numericPoint) (h : isNumeralChar c = false) :
    mode.following? c = none ∧ mode.isClosedBy c = false := by
  have hclass : isDigit c = false ∧ c ≠ '.' := by simpa [isNumeralChar, point] using h
  rcases hmode with rfl | rfl <;> simp [following?, isClosedBy, hclass.1, hclass.2]

end Mode

/-! ### Scanning a lexeme -/

variable {config : Config} {source : Source} {position : Int} {lexeme rest : Text}

/-- A scan takes in the whole word ahead. -/
theorem scan_of_isWord (hbound : -source.size ≤ position) (hword : IsWord lexeme)
    (hahead : source.ahead position = lexeme ++ rest)
    (hfollow : ∀ c ∈ rest.head?, ¬ Extends lexeme c) :
    scan config source position =
      .ok (some { config.resolve lexeme with
        lexeme := source.slice position (position + lexeme.length) },
          position + lexeme.length) := by
  cases lexeme with
  | nil => exact absurd hword not_isWord_nil
  | cons c text =>
    have hpoint : c ≠ point := ne_of_class hword.1 rfl
    have hends : ∀ d ∈ rest.head?,
        Mode.identifier.following? d = none ∧ Mode.identifier.isClosedBy d = false := by
      intro d hd
      have := hfollow d hd
      rw [extends_iff_of_isWord hword] at this
      simp [Mode.following?, Mode.isClosedBy, this]
    rw [scan_of_through? hbound hahead (Mode.opening?_of_isWordStart hword.1)
      (Mode.through?_identifier hword.2) (by decide) hends]
    simp only [outcome, finished, toList_seed_push_append, seeded_cons_of_ne hpoint,
      Config.resolved_eq]
    rfl

/-- A scan takes in all digits and points ahead, and reads them as a numeral. -/
theorem scan_of_numeralRun {run : Text} (hbound : -source.size ≤ position) (hne : run ≠ [])
    (hrun : ∀ c ∈ run, isNumeralChar c = true) (hahead : source.ahead position = run ++ rest)
    (hrest : ∀ c ∈ rest.head?, isNumeralChar c = false) :
    scan config source position =
      (numeral (seeded run) source position).map fun token =>
        (some { token with lexeme := source.slice position (position + run.length) },
          position + run.length) := by
  cases run with
  | nil => exact absurd rfl hne
  | cons c text =>
    obtain ⟨hc, htext⟩ := List.forall_mem_cons.1 hrun
    -- a leading point opens the mode that other numerals come to with their first point
    obtain ⟨mode, last, hopening, hthrough, hlast⟩ : ∃ mode last, Mode.opening? c = some mode ∧
        mode.through? text = some last ∧ (last = .numeric ∨ last = .numericPoint) := by
      by_cases hpoint : c = point
      · exact ⟨_, _, if_pos hpoint, Mode.through?_numericPoint htext, .inr rfl⟩
      · obtain ⟨last, hthrough, hlast⟩ := Mode.through?_numeric htext
        exact ⟨_, last, Mode.opening?_of_isDigit (isDigit_of_isNumeralChar hc hpoint), hthrough,
          hlast⟩
    have hends : ∀ d ∈ rest.head?, last.following? d = none ∧ last.isClosedBy d = false :=
      fun d hd => Mode.following?_of_isNumeralChar_eq_false hlast (hrest d hd)
    have hne : last ≠ .start := by rcases hlast with rfl | rfl <;> decide
    rw [scan_of_through? hbound hahead hopening hthrough hne hends]
    rcases hlast with rfl | rfl <;> simp only [outcome, finished, toList_seed_push_append]

/-- A scan takes in a symbol of one character. -/
theorem scan_of_mem_symbolChars {c : Char} (hbound : -source.size ≤ position)
    (hc : c ∈ symbolChars) (hahead : source.ahead position = [c] ++ rest)
    (hfollow : ∀ d ∈ rest.head?, ¬ Extends [c] d) :
    scan config source position =
      .ok (some { config.resolve [c] with lexeme := source.slice position (position + 1) },
        position + 1) := by
  have hsymbol := List.contains_iff_mem.2 hc
  have hpoint : c ≠ point := ne_of_class hsymbol rfl
  -- the hyphen has a mode of its own, which only an angle would close
  obtain ⟨mode, hopening, hmode, hends⟩ : ∃ mode, Mode.opening? c = some mode ∧
      (mode = .single ∨ mode = .possibleArrow) ∧
      ∀ d ∈ rest.head?, mode.following? d = none ∧ mode.isClosedBy d = false := by
    by_cases hhyphen : c = '-'
    · subst hhyphen
      refine ⟨.possibleArrow, by decide, .inr rfl, fun d hd => ⟨rfl, ?_⟩⟩
      have := hfollow d hd
      rw [extends_iff_of_isSymbol (.inr ⟨_, hc, rfl⟩)] at this
      simpa [Mode.isClosedBy] using this
    · have hopening := Mode.opening?_of_isSymbolChar hsymbol hhyphen
      exact ⟨.single, hopening, .inl rfl, fun _ _ => ⟨rfl, rfl⟩⟩
  have hne : mode ≠ .start := by rcases hmode with rfl | rfl <;> decide
  rw [scan_of_through? hbound hahead hopening rfl hne hends]
  rcases hmode with rfl | rfl <;>
    · simp only [outcome, finished, toList_seed_push_append, seeded_cons_of_ne hpoint,
        Config.resolved_eq]
      rfl

/-- A scan takes in the arrow rather than its hyphen alone. -/
theorem scan_of_arrow (hbound : -source.size ≤ position)
    (hahead : source.ahead position = ['-', '>'] ++ rest) :
    scan config source position =
      .ok (some { config.resolve ['-', '>'] with lexeme := source.slice position (position + 2) },
        position + 2) := by
  have hangle : (source.ahead (position + 1)).head? = some '>' := by
    rw [Source.ahead_succ hbound, hahead]
    rfl
  have hopening : Mode.opening? '-' = some .possibleArrow := by decide
  refine (reaches_opened hbound hahead hopening).run_eq.trans ?_
  refine (run_of_closes (Mode.ne_start_of_opening? hopening) ?_ hangle rfl rfl).trans ?_
  · simp only [opened, take, startingAt]
    omega
  · simp only [outcome, finished, opened, take, startingAt, Int.add_assoc, Config.resolved_eq]
    rfl

/-- A scan of a lexeme that nothing extends comes to its token. -/
theorem scan_of_isLexeme (hbound : -source.size ≤ position) (hlexeme : IsLexeme lexeme)
    (hahead : source.ahead position = lexeme ++ rest)
    (hfollow : ∀ c ∈ rest.head?, ¬ Extends lexeme c) :
    scan config source position =
      .ok (some { token config lexeme with
        lexeme := source.slice position (position + lexeme.length) },
          position + lexeme.length) := by
  rcases hlexeme with hword | hnumeral | hsymbol
  · rw [token_of_not_isNumeral config (not_isNumeral_of_isWord hword)]
    exact scan_of_isWord hbound hword hahead hfollow
  · have hrest : ∀ c ∈ rest.head?, isNumeralChar c = false := by
      intro c hc
      have := hfollow c hc
      rwa [extends_iff_of_isNumeral hnumeral, Bool.not_eq_true] at this
    rw [scan_of_numeralRun hbound hnumeral.1 hnumeral.2.1 hahead hrest, numeral_seeded hnumeral,
      token_of_isNumeral config hnumeral]
    rfl
  · rw [token_of_not_isNumeral config fun hnumeral => not_isSymbol_of_isNumeral hnumeral hsymbol]
    rcases hsymbol with rfl | ⟨c, hc, rfl⟩
    · exact scan_of_arrow hbound hahead
    · exact scan_of_mem_symbolChars hbound hc hahead hfollow

/-- A scan passes over the gap ahead and comes to the token of the lexeme, if nothing extends
it. -/
theorem scan_of_gap_lexeme {gap : Text} (hbound : -source.size ≤ position) (hgap : IsGap gap)
    (hlexeme : IsLexeme lexeme) (hahead : source.ahead position = gap ++ lexeme ++ rest)
    (hfollow : ∀ c ∈ rest.head?, ¬ Extends lexeme c) :
    scan config source position =
      .ok (some { token config lexeme with
        lexeme := source.slice (position + gap.length) (position + gap.length + lexeme.length) },
          position + gap.length + lexeme.length) := by
  rw [List.append_assoc] at hahead
  have hnext := Source.ahead_add_length hbound hahead
  rw [scan_skip hgap hbound hahead, scan_of_isLexeme (by omega) hlexeme hnext hfollow]

/-- From a position in the source a slice is the first part of the text ahead. -/
theorem Source.slice_of_ahead {n : Nat} {first : Text} (hahead : source.ahead n = first ++ rest) :
    source.slice n (n + first.length) = first := by
  rw [slice_eq_take_ahead, hahead, List.take_left]

/-- From a position in the source a scan passes over the gap ahead and comes to the token
of the lexeme, if nothing extends it. -/
theorem scan_of_lexeme {n : Nat} {gap : Text} (hgap : IsGap gap) (hlexeme : IsLexeme lexeme)
    (hahead : source.ahead n = gap ++ lexeme ++ rest)
    (hfollow : ∀ c ∈ rest.head?, ¬ Extends lexeme c) :
    scan config source n =
      .ok (some (token config lexeme), ((n + gap.length + lexeme.length : Nat) : Int)) := by
  have hnext : source.ahead ((n + gap.length : Nat) : Int) = lexeme ++ rest := by
    rw [Int.natCast_add]
    exact Source.ahead_add_length (by omega) (hahead.trans (List.append_assoc _ _ _))
  rw [scan_of_gap_lexeme (by omega) hgap hlexeme hahead hfollow, ← Int.natCast_add,
    Source.slice_of_ahead hnext, Int.natCast_add _ lexeme.length]
  -- the piece of source is the lexeme that the token carries already
  have htoken : { token config lexeme with lexeme := lexeme } = token config lexeme :=
    congrArg (Token.mk _) (token_lexeme config lexeme).symm
  rw [htoken]

end LogicLexer
