import Mathlib.Tactic.SplitIfs
import LogicLexer.Proofs.Grammar.Front
import LogicLexer.Proofs.Grammar.Numeral
import LogicLexer.Proofs.Scanner.Ahead
import LogicLexer.Proofs.Scanner.Steps

/-!
# The course of a scan

A scan depends on the text ahead alone. It passes over blanks, takes in the characters
that go on with a token, and stops where nothing ahead does.

## Main definitions

* `Mode.through?` — the mode after a whole text of the same token
* `Scanner.taking` — the scanner after such a text
* `Scanner.outcome` — what a scanner comes to when its token ends

## Main results

* `reaches_skip`, `scan_skip`, `scan_of_gap` — blanks change nothing but the position
* `Scanner.reaches_taking`, `Scanner.run_of_ends` — a token goes on, and ends
* `reaches_of_through?`, `scan_of_through?` — a scan from the first character of a token on, and
  to its end
-/

namespace LogicLexer

namespace Mode

/-- The mode after a text, if the token goes on with every character of it. -/
def through? : Mode → Text → Option Mode
  | mode, [] => some mode
  | mode, c :: rest => (mode.following? c).bind fun next => next.through? rest

/-- No character opens the mode of a scanner that has taken in nothing. -/
theorem ne_start_of_opening? {mode : Mode} {c : Char} (h : opening? c = some mode) :
    mode ≠ .start := by
  rintro rfl
  unfold opening? at h
  split_ifs at h <;> simp at h

/-- A character that opens a token is no blank. -/
theorem isBlank_eq_false_of_opening? {mode : Mode} {c : Char} (h : opening? c = some mode) :
    isBlank c = false := by
  unfold opening? at h
  split_ifs at h with hpoint hhyphen hword hdigit hsymbol
  · exact hpoint ▸ rfl
  · exact hhyphen ▸ rfl
  · exact isBlank_eq_false_of_isWordPart (isWordPart_of_isWordStart hword)
  · exact isBlank_eq_false_of_isNumeralChar (Lexeme.isNumeralChar_of_isDigit hdigit)
  · exact isBlank_eq_false_of_isSymbolChar hsymbol

/-- A word goes on with the characters of words. -/
theorem through?_identifier {text : Text} (h : ∀ c ∈ text, isWordPart c = true) :
    identifier.through? text = some identifier := by
  induction text with
  | nil => rfl
  | cons c rest ih =>
    obtain ⟨hc, hrest⟩ := List.forall_mem_cons.1 h
    rw [through?, following?, if_pos hc, Option.bind_some, ih hrest]

/-- After its point a numeral goes on with digits and points. -/
theorem through?_numericPoint {text : Text} (h : ∀ c ∈ text, Lexeme.isNumeralChar c = true) :
    numericPoint.through? text = some numericPoint := by
  induction text with
  | nil => rfl
  | cons c rest ih =>
    obtain ⟨hc, hrest⟩ := List.forall_mem_cons.1 h
    have hclass : (isDigit c || c == '.') = true := hc
    rw [through?, following?, if_pos hclass, Option.bind_some, ih hrest]

/-- Before its point a numeral goes on with digits and points, and the first point
changes the mode. -/
theorem through?_numeric {text : Text} (h : ∀ c ∈ text, Lexeme.isNumeralChar c = true) :
    ∃ mode, numeric.through? text = some mode ∧ (mode = numeric ∨ mode = numericPoint) := by
  induction text with
  | nil => exact ⟨numeric, rfl, .inl rfl⟩
  | cons c rest ih =>
    obtain ⟨hc, hrest⟩ := List.forall_mem_cons.1 h
    by_cases hdigit : isDigit c = true
    · rw [through?, following?, if_pos hdigit, Option.bind_some]
      exact ih hrest
    · -- after the point the mode is the other one, and stays so
      have hpoint : c = '.' := by
        have hclass : (isDigit c || c == '.') = true := hc
        simpa [hdigit] using hclass
      rw [through?, following?, if_neg hdigit, if_pos hpoint, Option.bind_some]
      exact ⟨numericPoint, through?_numericPoint hrest, .inr rfl⟩

end Mode

namespace Scanner

variable {config : Config} {source : Source} {scanner : Scanner} {c : Char} {rest : Text}

/-- The scanner after taking in a text. -/
def taking (scanner : Scanner) (mode : Mode) (text : Text) : Scanner :=
  { scanner with
    mode := mode, buffer := scanner.buffer ++ text.toArray
    position := scanner.position + text.length }

theorem taking_nil : scanner.taking scanner.mode [] = scanner := by
  simp [taking]

theorem taking_cons (mode next : Mode) :
    scanner.taking mode (c :: rest) = (scanner.take next c).taking mode rest := by
  simp only [taking, take, List.length_cons, Scanner.mk.injEq, true_and]
  refine ⟨by simp, ?_⟩
  omega

/-- Within a token a scanner takes in what the token goes on with. -/
theorem reaches_taking {mode : Mode} {text : Text} (hbound : -source.size ≤ scanner.position)
    (hahead : source.ahead scanner.position = text ++ rest)
    (hthrough : scanner.mode.through? text = some mode) :
    Reaches config source scanner text.length (scanner.taking mode text) := by
  induction text generalizing scanner with
  | nil =>
    obtain rfl : scanner.mode = mode := Option.some.inj hthrough
    exact taking_nil ▸ .refl scanner
  | cons c text ih =>
    rw [Mode.through?, Option.bind_eq_some_iff] at hthrough
    obtain ⟨next, hfollow, hthrough⟩ := hthrough
    have hpeek : source.peek scanner.position = .ok (some c) := by
      rw [Source.peek_eq hbound, hahead, List.cons_append, List.head?_cons]
    have hnext : source.ahead (scanner.position + 1) = text ++ rest := by
      rw [Source.ahead_succ hbound, hahead, List.cons_append, List.tail_cons]
    rw [taking_cons mode next]
    refine .step (step_eq_resume_iff.2 ⟨c, hpeek, .take hfollow⟩) (ih ?_ hnext hthrough)
    simp only [take]
    omega

/-- What a run comes to when its scanner stops with the token of what was taken in. -/
def outcome (config : Config) (source : Source) (scanner : Scanner) :
    Except Failure (Option Token × Int) :=
  (scanner.finished config source).map fun token =>
    (some { token with lexeme := source.slice scanner.start scanner.position }, scanner.position)

theorem run_of_finish {last : Scanner}
    (h : scanner.step config source = last.finish config source) :
    scanner.run config source = last.outcome config source := by
  rw [run_eq, h, finish, outcome]
  cases last.finished config source <;> rfl

/-- A token ends where nothing ahead goes on with it. -/
theorem run_of_ends (hmode : scanner.mode ≠ .start) (hbound : -source.size ≤ scanner.position)
    (hends : ∀ c ∈ (source.ahead scanner.position).head?,
      scanner.mode.following? c = none ∧ scanner.mode.isClosedBy c = false) :
    scanner.run config source = scanner.outcome config source := by
  refine run_of_finish ?_
  rw [step_of_ne_start hmode (Source.peek_eq hbound)]
  cases hhead : (source.ahead scanner.position).head? with
  | none => rfl
  | some c =>
    obtain ⟨hfollow, hclosed⟩ := hends c hhead
    simp only [Option.elim, proceed, hfollow, hclosed, Bool.false_eq_true, if_false]

/-- A token ends with the character that closes it. -/
theorem run_of_closes (hmode : scanner.mode ≠ .start) (hbound : -source.size ≤ scanner.position)
    (hhead : (source.ahead scanner.position).head? = some c)
    (hfollow : scanner.mode.following? c = none) (hcloses : scanner.mode.isClosedBy c = true) :
    scanner.run config source = (scanner.take scanner.mode c).outcome config source := by
  refine run_of_finish ?_
  rw [step_of_ne_start hmode (Source.peek_eq hbound), hhead]
  simp only [Option.elim, proceed, hfollow, hcloses, if_true]

end Scanner

open Lexeme Scanner

variable {config : Config} {source : Source} {position : Int}

/-- A scan begins with what is ahead. -/
theorem step_startingAt (hbound : -source.size ≤ position) :
    (startingAt position).step config source =
      (source.ahead position).head?.elim (.ok (.stop none position))
        ((startingAt position).enter source) :=
  step_of_start rfl (Source.peek_eq hbound)

/-- A scan passes over blanks, each with a step. -/
theorem reaches_skip {gap rest : Text} (hgap : IsGap gap) (hbound : -source.size ≤ position)
    (hahead : source.ahead position = gap ++ rest) :
    Reaches config source (startingAt position) gap.length
      (startingAt (position + gap.length)) := by
  induction gap generalizing position with
  | nil => exact (Int.add_zero position).symm ▸ .refl _
  | cons c gap ih =>
    obtain ⟨hblank, hrest⟩ := List.forall_mem_cons.1 hgap
    have hpeek : source.peek position = .ok (some c) := by
      rw [Source.peek_eq hbound, hahead, List.cons_append, List.head?_cons]
    have hnext : source.ahead (position + 1) = gap ++ rest := by
      rw [Source.ahead_succ hbound, hahead, List.cons_append, List.tail_cons]
    have hend : position + (c :: gap).length = position + 1 + gap.length := by
      rw [List.length_cons]
      omega
    have htail := ih hrest (by omega) hnext
    rw [hend]
    exact .step (step_eq_resume_iff.2 ⟨c, hpeek, .skip rfl hblank⟩) htail

/-- Blanks change nothing but the position. -/
theorem scan_skip {gap rest : Text} (hgap : IsGap gap) (hbound : -source.size ≤ position)
    (hahead : source.ahead position = gap ++ rest) :
    scan config source position = scan config source (position + gap.length) :=
  (reaches_skip hgap hbound hahead).run_eq

/-- Where only blanks are left a scan finds no token. -/
theorem scan_of_gap (hbound : -source.size ≤ position) (hgap : IsGap (source.ahead position)) :
    scan config source position = .ok (none, position + (source.ahead position).length) := by
  have hahead : source.ahead position = source.ahead position ++ [] := (List.append_nil _).symm
  have hend := Source.ahead_add_length hbound hahead
  rw [scan_skip hgap hbound hahead, scan, run_eq, step_startingAt (by omega), hend,
    List.head?_nil]
  rfl

/-- A scan goes on in the mode that the first character opens. -/
theorem reaches_opened {c : Char} {rest : Text} {mode : Mode} (hbound : -source.size ≤ position)
    (hahead : source.ahead position = c :: rest) (hopening : Mode.opening? c = some mode) :
    Reaches config source (startingAt position) 1 ((startingAt position).opened mode c) := by
  have hpeek : source.peek position = .ok (some c) := by
    rw [Source.peek_eq hbound, hahead, List.head?_cons]
  have hblank := Mode.isBlank_eq_false_of_opening? hopening
  exact .step (step_eq_resume_iff.2 ⟨c, hpeek, .opened rfl hblank hopening⟩) (.refl _)

/-- A scan takes in what goes on with its first character. -/
theorem reaches_of_through? {c : Char} {text rest : Text} {mode last : Mode}
    (hbound : -source.size ≤ position) (hahead : source.ahead position = c :: text ++ rest)
    (hopening : Mode.opening? c = some mode) (hthrough : mode.through? text = some last) :
    Reaches config source (startingAt position) (c :: text).length
      ⟨last, (Mode.seed c).push c ++ text.toArray, position, position + (c :: text).length⟩ := by
  have htext : source.ahead (position + 1) = text ++ rest := by
    rw [Source.ahead_succ hbound, hahead, List.cons_append, List.tail_cons]
  have hscanner : ((startingAt position).opened mode c).taking last text =
      ⟨last, (Mode.seed c).push c ++ text.toArray, position, position + (c :: text).length⟩ := by
    simp only [taking, opened, take, startingAt, Array.empty_append, List.length_cons,
      Scanner.mk.injEq, true_and]
    omega
  rw [← hscanner, List.length_cons, Nat.add_comm]
  refine (reaches_opened hbound hahead hopening).trans (reaches_taking ?_ htext hthrough)
  simp only [opened, take, startingAt]
  omega

/-- A scan takes in what goes on with its first character, and stops where nothing ahead
does. -/
theorem scan_of_through? {c : Char} {text rest : Text} {mode last : Mode}
    (hbound : -source.size ≤ position) (hahead : source.ahead position = c :: text ++ rest)
    (hopening : Mode.opening? c = some mode) (hthrough : mode.through? text = some last)
    (hlast : last ≠ .start)
    (hends : ∀ d ∈ rest.head?, last.following? d = none ∧ last.isClosedBy d = false) :
    scan config source position =
      outcome config source
        ⟨last, (Mode.seed c).push c ++ text.toArray, position, position + (c :: text).length⟩ := by
  have hrest : source.ahead (position + (c :: text).length) = rest :=
    Source.ahead_add_length hbound hahead
  refine (reaches_of_through? hbound hahead hopening hthrough).run_eq.trans ?_
  exact run_of_ends hlast (by simp only; omega) fun d hd => hends d (hrest ▸ hd)

end LogicLexer
