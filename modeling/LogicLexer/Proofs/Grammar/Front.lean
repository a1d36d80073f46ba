import LogicLexer.Proofs.Grammar.Lexeme

/-!
# What a text begins with

After its blanks a text has come to its end, or begins with a lexeme that nothing
extends, or is at fault. There are two faults: a stray character, which no lexeme begins
with, and a run of digits and points with more than one point.

## Main definitions

* `Lexeme.IsStray` — a character that no lexeme begins with
* `Lexeme.numeralRun` — the digits and points at the front of a text
* `Lexeme.BeginsFaulty` — a text at whose front stands a fault
* `Lexeme.Front` — the three ways for a text to go on after its blanks

## Main results

* `Lexeme.front` — every text goes on in one of these ways
-/

namespace LogicLexer.Lexeme

variable {text : Text} {c : Char}

/-- A character that is no blank and that no lexeme begins with. -/
def IsStray (c : Char) : Prop :=
  isBlank c = false ∧ c ≠ point ∧ isWordStart c = false ∧ isDigit c = false ∧
    isSymbolChar c = false

/-- The digits and points at the front of a text. -/
def numeralRun (text : Text) : Text :=
  text.takeWhile isNumeralChar

/-- The text begins with a stray character. -/
def BeginsStray (text : Text) : Prop :=
  ∃ c ∈ text.head?, IsStray c

/-- The text begins with digits and more than one point among them. -/
def BeginsMalformed (text : Text) : Prop :=
  1 < (numeralRun text).count point

instance (text : Text) : Decidable (BeginsMalformed text) :=
  inferInstanceAs (Decidable (_ < _))

/-- The text begins with a fault. -/
def BeginsFaulty (text : Text) : Prop :=
  BeginsStray text ∨ BeginsMalformed text

/-- How a text goes on after its blanks. -/
inductive Front : Text → Prop
  | blank {gap : Text} : IsGap gap → Front gap
  | lexeme {gap lexeme rest : Text} : IsGap gap → IsLexeme lexeme →
      (∀ c ∈ rest.head?, ¬ Extends lexeme c) → Front (gap ++ lexeme ++ rest)
  | fault {gap rest : Text} : IsGap gap → BeginsFaulty rest → Front (gap ++ rest)

/-! ### Runs of characters -/

/-- A run ends before a character outside its class. -/
theorem eq_false_of_mem_head?_dropWhile {p : Char → Bool} (h : c ∈ (text.dropWhile p).head?) :
    p c = false := by
  have hstop := List.head?_dropWhile_not p text
  rw [Option.mem_def.1 h] at hstop
  exact hstop

/-- A run is as long as its class lasts. -/
theorem takeWhile_append_eq {p : Char → Bool} {run rest : Text} (hrun : ∀ c ∈ run, p c = true)
    (hrest : ∀ c ∈ rest.head?, p c = false) : (run ++ rest).takeWhile p = run := by
  rw [List.takeWhile_append_of_pos hrun]
  cases rest with
  | nil => simp
  | cons c rest => simp [hrest c rfl]

theorem mem_numeralRun (h : c ∈ numeralRun text) : isNumeralChar c = true :=
  List.all_eq_true.1 List.all_takeWhile c h

/-- A stray character does not belong to a numeral. -/
theorem isNumeralChar_eq_false_of_isStray (h : IsStray c) : isNumeralChar c = false := by
  simp [isNumeralChar, h.2.1, h.2.2.2.1]

/-- A text cannot begin with both faults. -/
theorem not_beginsMalformed_of_beginsStray (h : BeginsStray text) : ¬ BeginsMalformed text := by
  obtain ⟨c, hc, hstray⟩ := h
  cases text with
  | nil => simp at hc
  | cons d rest =>
    obtain rfl : d = c := by simpa using hc
    simp [BeginsMalformed, numeralRun, isNumeralChar_eq_false_of_isStray hstray]

theorem ne_nil_of_beginsFaulty (h : BeginsFaulty text) : text ≠ [] := by
  rintro rfl
  rcases h with ⟨c, hc, -⟩ | hmalformed
  · simp at hc
  · simp [BeginsMalformed, numeralRun] at hmalformed

/-- A fault begins with a character that is no blank. -/
theorem isBlank_head?_eq_false_of_beginsFaulty (h : BeginsFaulty text) :
    ∀ c ∈ text.head?, isBlank c = false := by
  intro c hc
  rcases h with ⟨d, hd, hstray⟩ | hmalformed
  · obtain rfl : c = d := Option.mem_unique hc hd
    exact hstray.1
  · obtain ⟨rest, rfl⟩ := List.head?_eq_some_iff.1 hc
    refine isBlank_eq_false_of_isNumeralChar ?_
    rw [← Bool.not_eq_false]
    intro hnumeral
    simp [BeginsMalformed, numeralRun, hnumeral] at hmalformed

/-- As many blanks as a text begins with stand before any fault in it. -/
theorem length_le_of_beginsFaulty {gap rest before fault : Text} (hgap : IsGap gap)
    (hfault : BeginsFaulty fault) (h : gap ++ rest = before ++ fault) :
    gap.length ≤ before.length := by
  rcases List.append_eq_append_iff.1 h with ⟨blanks, rfl, -⟩ | ⟨blanks, rfl, rfl⟩
  · rw [List.length_append]
    exact Nat.le_add_right _ _
  · -- what is left of the gap would begin with a fault
    cases blanks with
    | nil => exact Nat.le_of_eq (congrArg List.length (List.append_nil before))
    | cons c blanks =>
      have hblank := hgap c (List.mem_append_right before List.mem_cons_self)
      exact absurd hblank (by simp [isBlank_head?_eq_false_of_beginsFaulty hfault c rfl])

/-! ### Text added at the end -/

/-- More text can only make the run of digits and points at the front longer. -/
theorem numeralRun_prefix_append (text more : Text) :
    numeralRun text <+: numeralRun (text ++ more) := by
  rw [numeralRun, numeralRun, List.takeWhile_append]
  split
  · rename_i hall
    rw [(List.takeWhile_prefix isNumeralChar).eq_of_length hall]
    exact List.prefix_append _ _
  · exact List.prefix_rfl

/-- A stray character at the front stays there. -/
theorem BeginsStray.append (h : BeginsStray text) (more : Text) : BeginsStray (text ++ more) := by
  obtain ⟨c, hc, hstray⟩ := h
  obtain ⟨rest, rfl⟩ := List.head?_eq_some_iff.1 hc
  exact ⟨c, rfl, hstray⟩

/-- A point too many stays one. -/
theorem BeginsMalformed.append (h : BeginsMalformed text) (more : Text) :
    BeginsMalformed (text ++ more) :=
  Nat.lt_of_lt_of_le h ((numeralRun_prefix_append text more).sublist.count_le point)

/-- A fault at the front stays one. -/
theorem BeginsFaulty.append (h : BeginsFaulty text) (more : Text) : BeginsFaulty (text ++ more) :=
  h.imp (·.append more) (·.append more)

/-! ### The front of a text without blanks before it -/

theorem front_of_isLexeme {lexeme rest : Text} (h : IsLexeme lexeme)
    (hfollow : ∀ d ∈ rest.head?, ¬ Extends lexeme d) : Front (lexeme ++ rest) := by
  have hfront := Front.lexeme isGap_nil h hfollow
  rwa [List.nil_append] at hfront

theorem front_of_beginsFaulty (h : BeginsFaulty text) : Front text := by
  have hfront := Front.fault isGap_nil h
  rwa [List.nil_append] at hfront

/-- A text that begins like a word begins with a word. -/
theorem front_of_isWordStart {rest : Text} (hc : isWordStart c = true) : Front (c :: rest) := by
  have hword : IsWord (c :: rest.takeWhile isWordPart) :=
    ⟨hc, List.all_eq_true.1 List.all_takeWhile⟩
  have hfollow : ∀ d ∈ (rest.dropWhile isWordPart).head?,
      ¬ Extends (c :: rest.takeWhile isWordPart) d := by
    intro d hd
    rw [extends_iff_of_isWord hword, eq_false_of_mem_head?_dropWhile hd]
    exact Bool.false_ne_true
  have hfront := front_of_isLexeme (.inl hword) hfollow
  rwa [List.cons_append, List.takeWhile_append_dropWhile] at hfront

/-- A text that begins like a numeral begins with a numeral, if it has no point too many. -/
theorem front_of_isNumeralChar {rest : Text} (hc : isNumeralChar c = true) :
    Front (c :: rest) := by
  -- the run of digits and points is a numeral unless it has a point too many
  by_cases hmalformed : BeginsMalformed (c :: rest)
  · exact front_of_beginsFaulty (.inr hmalformed)
  · have hnumeral : IsNumeral (numeralRun (c :: rest)) := by
      refine ⟨?_, fun d hd => mem_numeralRun hd, Nat.not_lt.1 hmalformed⟩
      rw [numeralRun, List.takeWhile_cons_of_pos hc]
      exact List.cons_ne_nil _ _
    have hfollow : ∀ d ∈ ((c :: rest).dropWhile isNumeralChar).head?,
        ¬ Extends (numeralRun (c :: rest)) d := by
      intro d hd
      rw [extends_iff_of_isNumeral hnumeral, eq_false_of_mem_head?_dropWhile hd]
      exact Bool.false_ne_true
    have hfront := front_of_isLexeme (.inr (.inl hnumeral)) hfollow
    rwa [numeralRun, List.takeWhile_append_dropWhile] at hfront

/-- A text that begins with a symbol character begins with a symbol. -/
theorem front_of_isSymbolChar {rest : Text} (hc : isSymbolChar c = true) : Front (c :: rest) := by
  have hsingle : IsSymbol [c] := .inr ⟨c, List.contains_iff_mem.1 hc, rfl⟩
  have harrow : IsSymbol ['-', '>'] := .inl rfl
  -- a hyphen before an angle is no lexeme here, but the arrow is
  by_cases hangle : c = '-' ∧ rest.head? = some '>'
  · obtain ⟨rfl, hhead⟩ := hangle
    obtain ⟨tail, rfl⟩ := List.head?_eq_some_iff.1 hhead
    refine front_of_isLexeme (.inr (.inr harrow)) ?_
    intro d _
    rw [extends_iff_of_isSymbol harrow]
    simp
  · refine front_of_isLexeme (.inr (.inr hsingle)) ?_
    intro d hd
    rw [extends_iff_of_isSymbol hsingle]
    rintro ⟨hhyphen, rfl⟩
    exact hangle ⟨(List.cons.inj hhyphen).1, hd⟩

/-- Blanks before a text do not change how it goes on. -/
theorem Front.prepend {gap : Text} (hgap : IsGap gap) (h : Front text) : Front (gap ++ text) := by
  cases h with
  | blank h => exact .blank (isGap_append.2 ⟨hgap, h⟩)
  | lexeme h hlexeme hfollow =>
    rw [← List.append_assoc, ← List.append_assoc]
    exact .lexeme (isGap_append.2 ⟨hgap, h⟩) hlexeme hfollow
  | fault h hfault =>
    rw [← List.append_assoc]
    exact .fault (isGap_append.2 ⟨hgap, h⟩) hfault

/-- Every text has come to its end after its blanks, or begins with a lexeme that nothing
extends, or is at fault. -/
theorem front (text : Text) : Front text := by
  rw [← List.takeWhile_append_dropWhile (p := isBlank) (l := text)]
  refine Front.prepend (List.all_eq_true.1 List.all_takeWhile) ?_
  cases hdrop : text.dropWhile isBlank with
  | nil => exact .blank isGap_nil
  | cons c rest =>
    have hhead : c ∈ (text.dropWhile isBlank).head? := by simp [hdrop]
    have hblank : isBlank c = false := eq_false_of_mem_head?_dropWhile hhead
    by_cases hword : isWordStart c = true
    · exact front_of_isWordStart hword
    by_cases hnumeral : isNumeralChar c = true
    · exact front_of_isNumeralChar hnumeral
    by_cases hsymbol : isSymbolChar c = true
    · exact front_of_isSymbolChar hsymbol
    -- what is left is a stray character
    have hclasses : isDigit c = false ∧ c ≠ point := by simpa [isNumeralChar] using hnumeral
    have hstray : IsStray c :=
      ⟨hblank, hclasses.2, by simpa using hword, hclasses.1, by simpa using hsymbol⟩
    exact front_of_beginsFaulty (.inl ⟨c, rfl, hstray⟩)

end LogicLexer.Lexeme
