import Mathlib.Data.List.Forall2
import LogicLexer.Proofs.Text.Quoted
import LogicLexer.Proofs.Tokenize.FirstFault

/-!
# The layout of a report

A report on an error has a fixed number of lines, and each of them begins in a fixed way. What
comes from the source goes into a line only in printable characters: the offending text and what
stands at the offset are quoted, and an unprintable character is named by its code point. So no
source can break a line or add one. What can keep a report from being written at all is its offset:
it is converted as a whole, so it must not have too many digits.

## Main definitions

* `IsReport` — a report of lines that begin in given ways
* `LexError.HasReport` — a report on an error, with the lines that it has

## Main results

* `Diagnostic.exists_render` — the lines of a report with help and suggestions
* `LexError.isWithinLimit_of_hasReport` — a report needs an offset within the limit
* `hasReport_of_source` — which errors of a source or of a numeral have a report
-/

namespace LogicLexer

open Lexeme

/-- A line begins with the opening and is printable. -/
def Opens (opening : String) (line : Text) : Prop :=
  opening.toList <+: line ∧ line.IsPrintable

/-- A report has a line for each opening. It consists of printable characters and line breaks,
it ends with a line break, and it has no others than those after its lines. -/
structure IsReport (openings : List String) (report : String) : Prop where
  shown : ∀ c ∈ report.toList, isPrintable c = true ∨ c = '\n'
  ends : report.toList.getLast? = some '\n'
  breaks : report.toList.count '\n' = openings.length
  lines : ∃ lines : List Text, report.toList = lines.flatMap (· ++ ['\n']) ∧
    List.Forall₂ Opens openings lines

/-- How the lines about suggestions begin: with a heading, if there are any. -/
def suggestionOpenings : Nat → List String
  | 0 => []
  | n + 1 => "  suggestions:" :: List.replicate (n + 1) "    - "

/-- How the lines of a report begin: what is wrong, where, the help and the suggestions. -/
def reportOpenings (suggestions : Nat) : List String :=
  "ERROR[" :: "  --> offset " :: "  help: " :: suggestionOpenings suggestions

/-- Nothing is suggested about a character that no token begins with. -/
def Fault.IsBare (fault : Fault) : Prop :=
  ∃ char remaining, fault = .unrecognized char remaining ∧ suggest char = []

/-- There is a report on the error. It has three lines if nothing is suggested about a character
that no token begins with, and else five, with one suggestion. -/
def LexError.HasReport (error : LexError) : Prop :=
  ∃ report, (Failure.lexical error).message = .ok report ∧
    (error.fault.IsBare → IsReport (reportOpenings 0) report) ∧
    (¬ error.fault.IsBare → IsReport (reportOpenings 1) report)

variable {openings : List String} {report opening rest : String} {lines : List Text}

/-! ### Lines -/

theorem opens_append (h : Text.IsPrintable opening.toList) (hrest : Text.IsPrintable rest.toList) :
    Opens opening (opening ++ rest).toList := by
  rw [String.toList_append]
  exact ⟨List.prefix_append _ _, h.append hrest⟩

/-- A printable line has no line break of its own. -/
theorem count_newline_flatMap (h : ∀ line ∈ lines, line.IsPrintable) :
    (lines.flatMap (· ++ ['\n'])).count '\n' = lines.length := by
  induction lines with
  | nil => rfl
  | cons line lines ih =>
    obtain ⟨hline, hlines⟩ := List.forall_mem_cons.1 h
    rw [List.flatMap_cons, List.count_append, List.count_append, ih hlines,
      List.count_eq_zero.2 hline.not_mem_newline, List.count_singleton_self, Nat.zero_add,
      Nat.add_comm, List.length_cons]

/-- Printable lines with a line break after each of them are a report. -/
theorem isReport_of_lines (hne : openings ≠ [])
    (hreport : report.toList = lines.flatMap (· ++ ['\n']))
    (hlines : List.Forall₂ Opens openings lines) : IsReport openings report := by
  have hprintable : ∀ line ∈ lines, line.IsPrintable := by
    clear hreport hne
    induction hlines with
    | nil => exact List.forall_mem_nil _
    | cons hopens _ ih => exact List.forall_mem_cons.2 ⟨hopens.2, ih⟩
  refine ⟨fun c hc => ?_, ?_, ?_, lines, hreport, hlines⟩
  · rw [hreport, List.mem_flatMap] at hc
    obtain ⟨line, hline, hc⟩ := hc
    rcases List.mem_append.1 hc with hc | hc
    · exact .inl (hprintable line hline c hc)
    · exact .inr (List.mem_singleton.1 hc)
  · rcases List.eq_nil_or_concat lines with rfl | ⟨before, last, rfl⟩
    · exact absurd (List.forall₂_nil_right_iff.1 hlines) hne
    · rw [hreport, List.concat_eq_append, List.flatMap_append, List.flatMap_singleton,
        ← List.append_assoc, List.getLast?_concat]
  · rw [hreport, count_newline_flatMap hprintable, hlines.length_eq]

/-! ### Diagnostics -/

/-- There is advice with a code and help, all of it in printable characters. -/
structure Advice.IsComplete (advice : Advice) : Prop where
  code : ∃ code, advice.code = some code ∧ code.isEmpty = false ∧ Text.IsPrintable code.toList
  help : ∃ help, advice.help = some help ∧ help.isEmpty = false ∧ Text.IsPrintable help.toList
  suggestions : ∀ suggestion ∈ advice.suggestions.getD [], Text.IsPrintable suggestion.toList

theorem filter_isEmpty_of_eq_false {text : String} (h : text.isEmpty = false) :
    (some text).filter (!·.isEmpty) = some text :=
  Option.filter_some_pos (by rw [h]; rfl)

namespace Diagnostic

variable {diagnostic : Diagnostic}

theorem opens_headline (hadvice : diagnostic.advice.IsComplete)
    (hmessage : Text.IsPrintable diagnostic.message.toList) :
    Opens "ERROR[" diagnostic.headline.toList := by
  obtain ⟨code, hcode, hne, hprintable⟩ := hadvice.code
  rw [headline, hcode, filter_isEmpty_of_eq_false hne]
  simp only [String.append_assoc]
  refine opens_append (by decide) ?_
  rw [String.toList_append, String.toList_append]
  exact hprintable.append (.append (by decide) hmessage)

/-- The context is shown quoted, so whatever it is the line is printable. -/
theorem exists_location (hoffset : Numeral.IsWithinLimit diagnostic.offset) :
    ∃ location, diagnostic.location = .ok location ∧ Opens "  --> offset " location.toList := by
  rw [location, Numeral.toText_of_isWithinLimit hoffset]
  refine ⟨_, rfl, ?_⟩
  simp only [String.append_assoc]
  refine opens_append (by decide) ?_
  simp only [String.toList_append, String.toList_ofList]
  exact (isPrintable_decimal _).append (.append (by decide) (Text.isPrintable_quoted _))

theorem forall₂_opens_helpLines (hadvice : diagnostic.advice.IsComplete) :
    List.Forall₂ Opens ["  help: "] (diagnostic.helpLines.map String.toList) := by
  obtain ⟨help, hhelp, hne, hprintable⟩ := hadvice.help
  rw [helpLines, hhelp, filter_isEmpty_of_eq_false hne]
  exact .cons (opens_append (by decide) hprintable) .nil

theorem forall₂_opens_suggestionLines (hadvice : diagnostic.advice.IsComplete) :
    List.Forall₂ Opens (suggestionOpenings (diagnostic.advice.suggestions.getD []).length)
      (diagnostic.suggestionLines.map String.toList) := by
  have hsuggestions := hadvice.suggestions
  rw [suggestionLines]
  generalize diagnostic.advice.suggestions.getD [] = suggestions at hsuggestions ⊢
  cases suggestions with
  | nil => exact .nil
  | cons suggestion rest =>
    have hopenings : List.replicate (rest.length + 1) "    - " =
        (suggestion :: rest).map fun _ => "    - " := by
      rw [List.map_const', List.length_cons]
    refine .cons ⟨List.prefix_rfl, by decide⟩ ?_
    rw [hopenings, List.forall₂_map_left_iff, List.map_map, List.forall₂_map_right_iff,
      List.forall₂_same]
    exact fun s hs => opens_append (by decide) (hsuggestions s hs)

theorem exists_lines (hadvice : diagnostic.advice.IsComplete)
    (hmessage : Text.IsPrintable diagnostic.message.toList)
    (hoffset : Numeral.IsWithinLimit diagnostic.offset) :
    ∃ lines, diagnostic.lines = .ok lines ∧ List.Forall₂ Opens
      (reportOpenings (diagnostic.advice.suggestions.getD []).length)
      (lines.map String.toList) := by
  obtain ⟨location, hlocation, hopens⟩ := exists_location hoffset
  rw [lines, hlocation]
  refine ⟨_, rfl, ?_⟩
  rw [List.map_cons, List.map_cons, List.map_append]
  exact .cons (opens_headline hadvice hmessage) (.cons hopens
    (List.rel_append (forall₂_opens_helpLines hadvice) (forall₂_opens_suggestionLines hadvice)))

/-- There is a report with a line for each part of complete advice, if the message is printable
and the offset within the limit. -/
theorem exists_render (hadvice : diagnostic.advice.IsComplete)
    (hmessage : Text.IsPrintable diagnostic.message.toList)
    (hoffset : Numeral.IsWithinLimit diagnostic.offset) :
    ∃ report, diagnostic.render = .ok report ∧
      IsReport (reportOpenings (diagnostic.advice.suggestions.getD []).length) report := by
  obtain ⟨lines, hlines, hopens⟩ := exists_lines hadvice hmessage hoffset
  rw [render, hlines]
  refine ⟨_, rfl, isReport_of_lines (List.cons_ne_nil _ _) ?_ hopens⟩
  rw [String.toList_join, List.flatMap_map, List.flatMap_map]
  congr
  funext line
  rw [String.toList_append]
  rfl

/-- An offset of too many digits leaves no report, whatever else there is to be said. -/
theorem render_of_not_isWithinLimit (h : ¬ Numeral.IsWithinLimit diagnostic.offset) :
    diagnostic.render = .error (.tooManyDigits none) := by
  rw [render, lines, location, Numeral.toText_of_not_isWithinLimit h]
  rfl

end Diagnostic

/-! ### What is said about the source -/

/-- The offending text is quoted in the message. -/
theorem ErrorCode.isPrintable_message (code : ErrorCode) (offending : Text) :
    Text.IsPrintable (code.message offending).toList := by
  have htitle : Text.IsPrintable code.title.toList := by cases code <;> decide
  rw [message]
  simp only [String.toList_append, String.toList_ofList]
  exact (htitle.append (by decide)).append (Text.isPrintable_quoted _)

/-- At most one symbol is suggested for a character, and it is printable. -/
theorem suggest_singleton (c : Char) :
    suggest [c] = [] ∨ ∃ d, isPrintable d = true ∧ suggest [c] = [d] := by
  have hentries : ∀ entry ∈ alternatives, entry.2 ∈ ['¬', '∧', '∨'].map ([·]) := by decide
  have hoperators : (0x2190, 0x2426) ∈ Unicode.printables := by decide +kernel
  have hprintable : ∀ d ∈ ['¬', '∧', '∨'], isPrintable d = true :=
    List.forall_mem_cons.2 ⟨by decide, List.forall_mem_cons.2
      ⟨isPrintable_of_mem_printables hoperators (by decide) (by decide), List.forall_mem_singleton.2
        (isPrintable_of_mem_printables hoperators (by decide) (by decide))⟩⟩
  rw [suggest]
  cases hlookup : alternatives.lookup c with
  | none => exact .inl rfl
  | some meant =>
    obtain ⟨before, after, hsplit, -⟩ := List.lookup_eq_some_iff.1 hlookup
    have hmem : (c, meant) ∈ alternatives := hsplit ▸ List.mem_append_right _ List.mem_cons_self
    obtain ⟨d, hd, hmeant⟩ := List.mem_map.1 (hentries _ hmem)
    exact .inr ⟨d, hprintable d hd, hmeant.symm⟩

namespace LexError

/-- The help about a character is printable, whether it names the symbol that may be meant, the
quoted character or its code point. -/
theorem isPrintable_helpFor (c : Char) : Text.IsPrintable (helpFor c).toList := by
  rw [helpFor]
  rcases suggest_singleton c with hnone | ⟨d, hd, hone⟩
  · simp only [hnone]
    split
    · simp only [String.toList_append, String.toList_ofList]
      exact .append (.append (by decide) (Text.isPrintable_quoted _)) (by decide)
    · simp only [String.toList_append, String.toList_ofList]
      exact .append (.append (by decide) (isPrintable_map_toUpper_hexadecimal _ _)) (by decide)
  · simp only [hone, List.map_cons, List.map_nil, String.intercalate_singleton,
      String.toList_append, String.toList_singleton]
    exact .append (.append (by decide) (.cons hd .nil)) (by decide)

theorem isEmpty_helpFor (c : Char) : (helpFor c).isEmpty = false := by
  rw [helpFor]
  split
  · split <;> simp
  · simp

theorem isComplete_adviceFor (c : Char) : (adviceFor c).IsComplete where
  code := ⟨_, rfl, by decide, by decide⟩
  help := ⟨_, rfl, isEmpty_helpFor c, isPrintable_helpFor c⟩
  suggestions := by
    rcases suggest_singleton c with hnone | ⟨d, hd, hone⟩
    · simp [adviceFor, hnone]
    · simp [adviceFor, hone, Text.IsPrintable, hd]

theorem isComplete_malformedAdvice : malformedAdvice.IsComplete where
  code := ⟨_, rfl, by decide, by decide⟩
  help := ⟨_, rfl, by decide, by decide⟩
  suggestions := by decide

/-! ### Errors -/

/-- A report needs an offset within the limit. -/
theorem isWithinLimit_of_hasReport {error : LexError} (h : error.HasReport) :
    Numeral.IsWithinLimit error.diagnostic.offset := by
  obtain ⟨report, hmessage, -⟩ := h
  rw [← Classical.not_not (a := Numeral.IsWithinLimit _)]
  intro hoffset
  cases (Diagnostic.render_of_not_isWithinLimit hoffset).symm.trans hmessage

/-- The report on a character that no token begins with has three lines or five. -/
theorem hasReport_unrecognized_iff (c : Char) (context : Text) (position : Int) :
    (unrecognized [c] context position (adviceFor c)).HasReport ↔
      Numeral.IsWithinLimit position := by
  refine ⟨isWithinLimit_of_hasReport, fun hposition => ?_⟩
  have hadvice : (unrecognized [c] context position (adviceFor c)).diagnostic.advice.IsComplete :=
    isComplete_adviceFor c
  obtain ⟨report, hmessage, hreport⟩ :=
    Diagnostic.exists_render hadvice (ErrorCode.isPrintable_message _ _) hposition
  refine ⟨report, hmessage, ?_⟩
  change IsReport (reportOpenings ((suggest [c]).map String.singleton).length) _ at hreport
  rcases suggest_singleton c with hnone | ⟨d, -, hone⟩
  · rw [hnone] at hreport
    exact ⟨fun _ => hreport, fun hbare => absurd ⟨_, _, rfl, hnone⟩ hbare⟩
  · rw [hone] at hreport
    refine ⟨?_, fun _ => hreport⟩
    rintro ⟨char, remaining, hfault, hchar⟩
    obtain ⟨rfl, -⟩ := Fault.unrecognized.inj hfault
    exact absurd (hone.symm.trans hchar) (List.cons_ne_nil _ _)

/-- The report on a malformed numeral has five lines. -/
theorem hasReport_malformed_iff (lexeme context : Text) (position : Int) :
    (malformed lexeme position context malformedAdvice).HasReport ↔
      Numeral.IsWithinLimit position := by
  refine ⟨isWithinLimit_of_hasReport, fun hposition => ?_⟩
  have hadvice : (malformed lexeme position context malformedAdvice).diagnostic.advice.IsComplete :=
    isComplete_malformedAdvice
  obtain ⟨report, hmessage, hreport⟩ :=
    Diagnostic.exists_render hadvice (ErrorCode.isPrintable_message _ _) hposition
  refine ⟨report, hmessage, ?_, fun _ => hreport⟩
  rintro ⟨char, remaining, hfault, -⟩
  cases hfault

theorem hasReport_ofFault_iff {ahead : Text} (h : BeginsFaulty ahead) (position : Int)
    (context : Text) :
    (ofFault position context ahead).HasReport ↔ Numeral.IsWithinLimit position := by
  rcases h with ⟨c, hc, hstray⟩ | hmalformed
  · obtain ⟨rest, rfl⟩ := List.head?_eq_some_iff.1 hc
    rw [ofFault_of_isStray hstray]
    exact hasReport_unrecognized_iff c context position
  · rw [ofFault_of_beginsMalformed hmalformed]
    exact hasReport_malformed_iff _ context position

end LexError

/-- Whatever a source is, it cannot break the layout of a report: not that on the character at
a position, not that on a numeral that is called malformed, and so not that on the error which
the reading of a text fails with. There is a report exactly if the offset is within the limit to
conversions. In a text whose length is within the limit every offset is. -/
theorem hasReport_of_source :
    (∀ (source : Source) (position : Int), -source.size ≤ position → position < source.size →
      ∃ c error, source.charAt position = .ok c ∧
        LexError.unrecognizedAt source position = .ok error ∧
        error.fault = .unrecognized [c] (source.suffix position) ∧
        (error.HasReport ↔ Numeral.IsWithinLimit position)) ∧
    (∀ (lexeme : Text) (source : Source) (position : Int),
      (LexError.malformedAt lexeme source position).fault = .malformed lexeme ∧
        ((LexError.malformedAt lexeme source position).HasReport ↔
          Numeral.IsWithinLimit position)) ∧
    ∀ (config : Config) (text : Text) (failure : Failure), tokenize config text = .error failure →
      ∃ error : LexError, failure = .lexical error ∧
        (Numeral.IsWithinLimit text.length → error.HasReport) := by
  refine ⟨fun source position hfirst hlast => ?_,
    fun lexeme source position => ⟨rfl, LexError.hasReport_malformed_iff _ _ _⟩,
    fun config text failure hfailure => ?_⟩
  · cases hchar : source.charAt position with
    | error reason =>
      -- from its last character back to its first a source has one at the position
      have houtside := ((Source.charAt_eq_error_iff source position reason).1 hchar).1
      omega
    | ok c =>
      have herror : LexError.unrecognizedAt source position =
          .ok (.unrecognized [c] (source.suffix position) position (LexError.adviceFor c)) := by
        rw [LexError.unrecognizedAt, hchar]
        rfl
      exact ⟨c, _, rfl, herror, rfl, LexError.hasReport_unrecognized_iff c _ position⟩
  · obtain ⟨offset, hfault⟩ := exists_faultAt_of_tokenize hfailure
    rw [tokenize_of_faultAt hfault] at hfailure
    obtain rfl := Except.error.inj hfailure
    -- the offset lies in the text, so it has no more digits than the length
    have hinside := hfault.inside
    exact ⟨_, rfl, fun hlength => (LexError.hasReport_ofFault_iff hfault.fault _ _).2
      (hlength.of_natAbs_le (by omega))⟩

/-- The largest power of ten within the limit as an offset, and a text that is refused where it
begins. -/
theorem hasReport_of_source_at_limit :
    let numeral : Text := ['1', '.', '.']
    (LexError.malformedAt numeral numeral.toArray (Numeral.placeValue 4299)).HasReport ∧
      ∃ error : LexError, tokenize {} numeral = .error (.lexical error) ∧ error.HasReport := by
  intro numeral
  have hlarge : Numeral.IsWithinLimit (Numeral.placeValue 4299) :=
    Numeral.isWithinLimit_placeValue_iff.2 (by decide)
  have hsmall : Numeral.IsWithinLimit numeral.length :=
    (Numeral.isWithinLimit_placeValue_iff (n := 1)).2 (by decide) |>.of_natAbs_le (by decide)
  have hleads : Layout.Leads ⟨[], [] ++ numeral⟩ := Layout.leads_nil
  have hread : tokenize {} numeral = _ :=
    tokenize_of_fault {} hleads (by decide) (.inr (by decide))
  obtain ⟨error, herror, hreport⟩ := hasReport_of_source.2.2 {} numeral _ hread
  exact ⟨(hasReport_of_source.2.1 _ _ _).2.2 hlarge, error, hread.trans (congrArg _ herror),
    hreport hsmall⟩

/-- The next power of ten has too many digits, so there is no report on a malformed numeral. -/
theorem not_hasReport_beyond_limit :
    let numeral : Text := ['1', '.', '.']
    let error := LexError.malformedAt numeral numeral.toArray
      (Numeral.placeValue Numeral.digitLimit)
    (Failure.lexical error).message = .error (.tooManyDigits none) ∧ ¬ error.HasReport := by
  intro numeral error
  have hoffset : ¬ Numeral.IsWithinLimit error.diagnostic.offset :=
    mt Numeral.isWithinLimit_placeValue_iff.1 (Nat.lt_irrefl _)
  exact ⟨Diagnostic.render_of_not_isWithinLimit hoffset,
    mt LexError.isWithinLimit_of_hasReport hoffset⟩

end LogicLexer
