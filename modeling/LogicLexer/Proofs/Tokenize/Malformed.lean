import LogicLexer.Proofs.Tokenize.FirstFault

/-!
# The lexeme of a malformed numeral

The error of a malformed numeral names the digits and points that stand at its offset, all of
them up to the first character that is neither. It names them as the scanner has taken them
in, though, and the scanner takes in a zero before a leading point. So the lexeme of the error
is quoted from the text unless a point stands at the offset; if one does, the lexeme has a zero
that is not in the text.

## Main definitions

* `IsQuotedFrom` — a lexeme that an error quotes from a text

## Main results

* `isQuotedFrom_iff` — the digits and points at the offset are the only such lexeme
* `exists_isQuotedFrom_of_malformed` — how the lexeme of an error differs from it
-/

namespace LogicLexer

open Lexeme

variable {config : Config} {text lexeme : Text} {offset : Nat} {diagnostic : Diagnostic}

/-! ### What the scanner takes in -/

/-- A run that begins with a point is taken in with a zero before it. -/
theorem Lexeme.seeded_numeralRun_of_point (h : text.head? = some point) :
    seeded (numeralRun text) = '0' :: numeralRun text := by
  obtain ⟨rest, rfl⟩ := List.head?_eq_some_iff.1 h
  rw [numeralRun, List.takeWhile_cons_of_pos rfl, seeded_point_cons]

/-- A run that begins with a digit is taken in as it is. -/
theorem Lexeme.seeded_numeralRun_of_ne (h : text.head? ≠ some point) :
    seeded (numeralRun text) = numeralRun text := by
  cases hrun : numeralRun text with
  | nil => rfl
  | cons c rest =>
    refine seeded_cons_of_ne ?_ rest
    rintro rfl
    have hhead : (numeralRun text).head? = some point := congrArg List.head? hrun
    rw [numeralRun, List.head?_takeWhile, Option.filter_eq_some_iff] at hhead
    exact h hhead.1

/-! ### Quoted lexemes -/

/-- A lexeme of a malformed numeral is quoted from a text: it is the slice of the text at the
offset, it has all the digits and points there, and on its own it is refused as itself. -/
structure IsQuotedFrom (text : Text) (offset : Nat) (lexeme : Text) : Prop where
  slice : Source.slice text.toArray offset (offset + lexeme.length) = lexeme
  run : ∀ c ∈ lexeme, isNumeralChar c = true
  ends : ∀ c ∈ text[offset + lexeme.length]?, isNumeralChar c = false
  refused : ∀ source position, ∃ diagnostic,
    numeral lexeme source position = .error (.lexical ⟨.malformed lexeme, diagnostic⟩)

/-- What is quoted from a text at an offset is the run of digits and points there, if it has
more than one point. -/
theorem isQuotedFrom_iff : IsQuotedFrom text offset lexeme ↔
    lexeme = numeralRun (text.drop offset) ∧ BeginsMalformed (text.drop offset) := by
  have hahead : Source.ahead text.toArray offset = text.drop offset := Source.ahead_natCast _ _
  constructor
  · intro h
    have htake := h.slice
    rw [Source.slice_eq_take_ahead, hahead] at htake
    have hrun : numeralRun (text.drop offset) = lexeme := by
      rw [numeralRun, ← List.take_append_drop lexeme.length (text.drop offset), htake,
        List.drop_drop]
      refine takeWhile_append_eq h.run fun c hc => h.ends c ?_
      rwa [List.head?_drop] at hc
    refine ⟨hrun.symm, ?_⟩
    rw [BeginsMalformed, hrun]
    refine Nat.not_le.1 fun hcount => ?_
    obtain ⟨diagnostic, hrefused⟩ := h.refused #[] 0
    exact numeral_ne_lexical hcount #[] 0 _ hrefused
  · rintro ⟨hrun, hmalformed⟩
    have hsplit : text.drop offset = lexeme ++ (text.drop offset).dropWhile isNumeralChar := by
      rw [hrun]
      exact List.takeWhile_append_dropWhile.symm
    have hrest : text.drop (offset + lexeme.length) =
        (text.drop offset).dropWhile isNumeralChar := by
      rw [← List.drop_drop]
      exact (congrArg (List.drop lexeme.length) hsplit).trans List.drop_left
    rw [BeginsMalformed, ← hrun] at hmalformed
    refine ⟨Source.slice_of_ahead (hahead.trans hsplit), fun c hc => mem_numeralRun (hrun ▸ hc),
      fun c hc => ?_, fun source position => ⟨_, if_pos hmalformed⟩⟩
    rw [← List.head?_drop, hrest] at hc
    exact eq_false_of_mem_head?_dropWhile hc

/-- The error of a malformed numeral names the run of digits and points at its offset, with a zero
before it if the run begins with a point. So what it names is quoted from the text exactly if no
point stands there. -/
theorem exists_isQuotedFrom_of_malformed
    (h : tokenize config text = .error (.lexical ⟨.malformed lexeme, diagnostic⟩)) :
    ∃ (offset : Nat) (run : Text), diagnostic.offset = offset ∧ IsQuotedFrom text offset run ∧
      (text[offset]? = some point → lexeme = '0' :: run) ∧
      (text[offset]? ≠ some point → lexeme = run) ∧
      (IsQuotedFrom text offset lexeme ↔ text[offset]? ≠ some point) := by
  obtain ⟨offset, hfault⟩ := exists_faultAt_of_tokenize h
  rw [tokenize_of_faultAt hfault] at h
  rcases hfault.fault with ⟨c, hc, hstray⟩ | hmalformed
  · -- a stray character has another error
    obtain ⟨rest, hrest⟩ := List.head?_eq_some_iff.1 hc
    rw [hrest, LexError.ofFault_of_isStray hstray] at h
    simp [LexError.unrecognized] at h
  · rw [LexError.ofFault_of_beginsMalformed hmalformed] at h
    simp only [LexError.malformed, Except.error.injEq, Failure.lexical.injEq, LexError.mk.injEq,
      Fault.malformed.injEq] at h
    obtain ⟨rfl, rfl⟩ := h
    have hquoted := isQuotedFrom_iff.2 ⟨rfl, hmalformed⟩
    refine ⟨offset, _, rfl, hquoted, ?_⟩
    rw [isQuotedFrom_iff, ← List.head?_drop]
    by_cases hpoint : (text.drop offset).head? = some point
    · -- with the zero the lexeme is longer than the run
      rw [seeded_numeralRun_of_point hpoint]
      exact ⟨fun _ => rfl, fun hne => absurd hpoint hne,
        fun h => absurd h.1 (List.cons_ne_self _ _), fun hne => absurd hpoint hne⟩
    · rw [seeded_numeralRun_of_ne hpoint]
      exact ⟨fun h => absurd h hpoint, fun _ => rfl, fun _ => hpoint, fun _ => ⟨rfl, hmalformed⟩⟩

/-- A numeral that ends with two points, behind a word. -/
theorem exists_isQuotedFrom_of_malformed_behind_word :
    let text : Text := ['x', ' ', '4', '.', '.']
    let lexeme : Text := ['4', '.', '.']
    ∃ diagnostic, tokenize {} text = .error (.lexical ⟨.malformed lexeme, diagnostic⟩) ∧
      ∃ (offset : Nat) (run : Text), diagnostic.offset = offset ∧ IsQuotedFrom text offset run ∧
        (text[offset]? = some point → lexeme = '0' :: run) ∧
        (text[offset]? ≠ some point → lexeme = run) ∧
        (IsQuotedFrom text offset lexeme ↔ text[offset]? ≠ some point) := by
  intro text lexeme
  have hword : Layout.WellFormed ⟨[([], ['x'])], [' ']⟩ := by decide
  have hleads : Layout.Leads ⟨[([], ['x'])], [' '] ++ lexeme⟩ :=
    Layout.leads_append_iff.2 ⟨(Layout.wellFormed_iff.1 hword).1, fun h => by cases h⟩
  have hmalformed : BeginsMalformed lexeme := by decide
  have hread : tokenize {} text = _ := tokenize_of_fault {} hleads (by decide) (.inr hmalformed)
  rw [LexError.ofFault_of_beginsMalformed hmalformed] at hread
  exact ⟨_, hread, exists_isQuotedFrom_of_malformed hread⟩

/-- With a point at its front the lexeme of an error has a zero that the text does not have. -/
theorem not_isQuotedFrom_leading_point :
    let text : Text := ['.', '5', '.']
    let lexeme : Text := ['0', '.', '5', '.']
    ∃ diagnostic, tokenize {} text = .error (.lexical ⟨.malformed lexeme, diagnostic⟩) ∧
      diagnostic.offset = 0 ∧ ¬ IsQuotedFrom text 0 lexeme ∧ IsQuotedFrom text 0 text := by
  intro text lexeme
  have hmalformed : BeginsMalformed text := by decide
  have hleads : Layout.Leads ⟨[], [] ++ text⟩ := Layout.leads_nil
  have hread : tokenize {} text = _ := tokenize_of_fault {} hleads (by decide) (.inr hmalformed)
  rw [LexError.ofFault_of_beginsMalformed hmalformed] at hread
  refine ⟨_, hread, rfl, ?_, isQuotedFrom_iff.2 ⟨by decide, hmalformed⟩⟩
  rw [isQuotedFrom_iff]
  exact fun h => absurd h.1 (by decide)

end LogicLexer
