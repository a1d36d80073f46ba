import LogicLexer.Proofs.Scanner.Lexeme

/-!
# What a scanner has read

A scanner in the course of one token has passed over a gap and read the first part of a token.
The mode tells of which kind this part is, and the buffer holds it, with a zero before a leading
point. Each step that goes on adds the character ahead to the gap or to the part of the token,
and every such state is gone through by the scan that meets its text.

## Main definitions

* `Mode.Reads` — the texts that may have been read of a token in a mode
* `Scanner.reading` — the state after a gap and some text of a token
* `Scanner.ReadsFrom` — a state that has read what stands at a position

## Main results

* `Mode.Reads.concat`, `Mode.Reads.exists_through?` — how the modes read on, and that they read
  nothing else
* `Scanner.ReadsFrom.resume` — what one step adds
* `Scanner.exists_reaches_iff_readsFrom` — the states of a scan are those that have read what
  stands where it began
-/

namespace LogicLexer

open Lexeme

namespace Mode

/-- The texts that may have been read of a token in a mode. -/
def Reads : Mode → Text → Prop
  | start, text => text = []
  | identifier, text => IsWord text
  | numeric, text => text ≠ [] ∧ ∀ c ∈ text, isDigit c = true
  | numericPoint, text => point ∈ text ∧ ∀ c ∈ text, isNumeralChar c = true
  | single, text => ∃ c ∈ symbolChars, c ≠ '-' ∧ text = [c]
  | possibleArrow, text => text = ['-']

variable {mode next last : Mode} {text more : Text} {c : Char}

/-- Only before a token nothing of it has been read. -/
theorem reads_nil_iff : mode.Reads [] ↔ mode = start := by
  cases mode <;> simp [Reads]

/-- A character that opens a token is read in the mode that it opens. -/
theorem reads_of_opening? (h : opening? c = some mode) : mode.Reads [c] := by
  unfold opening? at h
  split_ifs at h with hpoint hhyphen hword hdigit hsymbol
  all_goals obtain rfl := Option.some.inj h
  · subst hpoint
    exact ⟨List.mem_cons_self, List.forall_mem_singleton.2 rfl⟩
  · exact congrArg (· :: []) hhyphen
  · exact ⟨hword, List.forall_mem_nil _⟩
  · exact ⟨List.cons_ne_nil _ _, List.forall_mem_singleton.2 hdigit⟩
  · exact ⟨c, List.contains_iff_mem.1 hsymbol, hhyphen, rfl⟩

/-- A character that a token goes on with is read in the mode that follows. -/
theorem Reads.concat (h : mode.Reads text) (hfollow : mode.following? c = some next) :
    next.Reads (text ++ [c]) := by
  cases mode with
  | start => cases hfollow
  | identifier =>
    obtain ⟨hc, hmode⟩ := Option.ite_none_right_eq_some.1 hfollow
    obtain rfl := Option.some.inj hmode
    obtain ⟨d, rest, rfl⟩ := List.exists_cons_of_ne_nil (ne_nil_of_isLexeme (.inl h))
    exact ⟨h.1, List.forall_mem_append.2 ⟨h.2, List.forall_mem_singleton.2 hc⟩⟩
  | numeric =>
    rw [following?] at hfollow
    split_ifs at hfollow with hdigit hpoint
    all_goals obtain rfl := Option.some.inj hfollow
    · refine ⟨List.append_ne_nil_of_left_ne_nil h.1 _, List.forall_mem_append.2 ⟨h.2, ?_⟩⟩
      exact List.forall_mem_singleton.2 hdigit
    · -- the first point changes the mode, and only digits stand before it
      subst hpoint
      refine ⟨List.mem_append_right _ List.mem_cons_self, List.forall_mem_append.2 ⟨?_, ?_⟩⟩
      · exact fun d hd => isNumeralChar_of_isDigit (h.2 d hd)
      · exact List.forall_mem_singleton.2 rfl
  | numericPoint =>
    obtain ⟨hc, hmode⟩ := Option.ite_none_right_eq_some.1 hfollow
    obtain rfl := Option.some.inj hmode
    exact ⟨List.mem_append_left _ h.1,
      List.forall_mem_append.2 ⟨h.2, List.forall_mem_singleton.2 hc⟩⟩
  | single => cases hfollow
  | possibleArrow => cases hfollow

/-- A text that a token goes on with is read in the mode after it. -/
theorem Reads.through? (h : mode.Reads text) (hthrough : mode.through? more = some last) :
    last.Reads (text ++ more) := by
  induction more generalizing mode text with
  | nil =>
    obtain rfl : mode = last := Option.some.inj hthrough
    rwa [List.append_nil]
  | cons c more ih =>
    rw [Mode.through?, Option.bind_eq_some_iff] at hthrough
    obtain ⟨next, hfollow, hthrough⟩ := hthrough
    have htail := ih (h.concat hfollow) hthrough
    rwa [List.append_assoc, List.singleton_append] at htail

/-- Whatever is read in a mode leads to it from its first character. -/
theorem Reads.exists_through? (h : mode.Reads (c :: text)) :
    ∃ first, opening? c = some first ∧ first.through? text = some mode := by
  cases mode with
  | start => cases h
  | identifier => exact ⟨identifier, opening?_of_isWordStart h.1, through?_identifier h.2⟩
  | numeric =>
    obtain ⟨hc, htext⟩ := List.forall_mem_cons.1 h.2
    have hopening := opening?_of_isDigit hc
    obtain ⟨last, hthrough, rfl | rfl⟩ :=
      through?_numeric fun d hd => isNumeralChar_of_isDigit (htext d hd)
    · exact ⟨numeric, hopening, hthrough⟩
    · -- the other mode comes with a point, and digits are none
      have hpoint := ((reads_of_opening? hopening).through? hthrough).1
      exact absurd rfl (ne_point_of_isDigit (h.2 point hpoint))
  | numericPoint =>
    obtain ⟨hc, htext⟩ := List.forall_mem_cons.1 h.2
    by_cases hpoint : c = point
    · exact ⟨numericPoint, if_pos hpoint, through?_numericPoint htext⟩
    · have hopening := opening?_of_isDigit (isDigit_of_isNumeralChar hc hpoint)
      obtain ⟨last, hthrough, rfl | rfl⟩ := through?_numeric htext
      · have hdigits := ((reads_of_opening? hopening).through? hthrough).2
        exact absurd rfl (ne_point_of_isDigit (hdigits point h.1))
      · exact ⟨numeric, hopening, hthrough⟩
  | single =>
    obtain ⟨d, hd, hne, heq⟩ := h
    obtain ⟨rfl, rfl⟩ := List.cons.inj heq
    exact ⟨single, opening?_of_isSymbolChar (List.contains_iff_mem.2 hd) hne, rfl⟩
  | possibleArrow =>
    obtain ⟨rfl, rfl⟩ := List.cons.inj h
    exact ⟨possibleArrow, by decide, rfl⟩

end Mode

namespace Scanner

variable {config : Config} {source : Source} {scanner next later : Scanner} {position : Int}
  {gap text rest : Text} {mode : Mode} {steps : Nat}

/-! ### The states by what has been read -/

/-- A scanner that began at a position and has passed over a gap and read some text of a token. -/
def reading (position : Int) (mode : Mode) (gap text : Text) : Scanner :=
  ⟨mode, (seeded text).toArray, position + gap.length, position + gap.length + text.length⟩

theorem reading_start (position : Int) (gap : Text) :
    reading position .start gap [] = startingAt (position + gap.length) := by
  simp [reading, startingAt, seeded]

theorem skip_reading (c : Char) :
    (reading position .start gap []).skip = reading position .start (gap ++ [c]) [] := by
  simp [reading, skip, Int.add_assoc]

theorem opened_reading (mode : Mode) (c : Char) :
    (reading position .start gap []).opened mode c = reading position mode gap [c] := by
  have hbuffer : (seeded [c]).toArray = (Mode.seed c).push c := by
    rw [← toList_seed_push_append, Array.toArray_toList, Array.append_empty]
  rw [reading, reading, hbuffer]
  simp [opened, take, seeded]

theorem take_reading {previous : Mode} (hne : text ≠ []) (mode : Mode) (c : Char) :
    (reading position previous gap text).take mode c = reading position mode gap (text ++ [c]) := by
  simp [reading, take, seeded_concat hne, Int.add_assoc]

/-- The scanner began at the position, and has passed over a gap and read some text of a token
that stand there. -/
def ReadsFrom (source : Source) (position : Int) (scanner : Scanner) : Prop :=
  ∃ gap text rest : Text, ∃ mode : Mode, IsGap gap ∧ mode.Reads text ∧
    source.ahead position = gap ++ text ++ rest ∧ scanner = reading position mode gap text

theorem readsFrom_startingAt (source : Source) (position : Int) :
    ReadsFrom source position (startingAt position) := by
  refine ⟨[], [], source.ahead position, .start, isGap_nil, rfl, rfl, ?_⟩
  rw [reading_start, List.length_nil, Int.natCast_zero, Int.add_zero]

/-- What is ahead of a scanner follows what it has read. -/
theorem peek_reading (hbound : -source.size ≤ position)
    (hahead : source.ahead position = gap ++ text ++ rest) :
    source.peek (reading position mode gap text).position = .ok rest.head? := by
  have hposition : (reading position mode gap text).position =
      position + (gap ++ text).length := by
    simp only [reading, List.length_append]
    omega
  rw [hposition, Source.peek_eq (by omega), Source.ahead_add_length hbound hahead]

/-- A step that goes on adds the character ahead to what has been read. -/
theorem ReadsFrom.resume (hbound : -source.size ≤ position) (h : ReadsFrom source position scanner)
    (hstep : scanner.step config source = .ok (.resume next)) : ReadsFrom source position next := by
  obtain ⟨gap, text, rest, mode, hgap, hreads, hahead, rfl⟩ := h
  obtain ⟨c, hpeek, hresumes⟩ := step_eq_resume_iff.1 hstep
  rw [peek_reading hbound hahead] at hpeek
  obtain ⟨tail, rfl⟩ := List.head?_eq_some_iff.1 (Except.ok.inj hpeek)
  cases hresumes with
  | skip hmode hblank =>
    obtain rfl : mode = .start := hmode
    obtain rfl : text = [] := hreads
    refine ⟨gap ++ [c], [], tail, .start, ?_, rfl, by simp [hahead], skip_reading c⟩
    exact isGap_append.2 ⟨hgap, List.forall_mem_singleton.2 hblank⟩
  | @opened first hmode _ hopening =>
    obtain rfl : mode = .start := hmode
    obtain rfl : text = [] := hreads
    exact ⟨gap, [c], tail, first, hgap, Mode.reads_of_opening? hopening, by simp [hahead],
      opened_reading first c⟩
  | @take last hfollow =>
    have hne : text ≠ [] := by
      rintro rfl
      exact ne_start_of_following? hfollow (Mode.reads_nil_iff.1 hreads)
    exact ⟨gap, text ++ [c], tail, last, hgap, hreads.concat hfollow, by simp [hahead],
      take_reading hne last c⟩

/-- Steps that go on only add to what has been read. -/
theorem Reaches.readsFrom (hbound : -source.size ≤ position)
    (h : Reaches config source scanner steps later) (hreads : ReadsFrom source position scanner) :
    ReadsFrom source position later := by
  induction h with
  | refl scanner => exact hreads
  | step hstep _ ih => exact ih (hreads.resume hbound hstep)

/-- A scan reads the gap and any text of a token that it meets, each character with a step. -/
theorem reaches_reading (hbound : -source.size ≤ position) (hgap : IsGap gap)
    (hreads : mode.Reads text) (hahead : source.ahead position = gap ++ text ++ rest) :
    Reaches config source (startingAt position) (gap.length + text.length)
      (reading position mode gap text) := by
  rw [List.append_assoc] at hahead
  refine (reaches_skip hgap hbound hahead).trans ?_
  cases text with
  | nil =>
    obtain rfl := Mode.reads_nil_iff.1 hreads
    rw [reading_start]
    exact .refl _
  | cons c text =>
    obtain ⟨first, hopening, hthrough⟩ := hreads.exists_through?
    have hnext := Source.ahead_add_length hbound hahead
    have hreaches : Reaches config source _ _ _ := reaches_of_through? (by omega) hnext
      hopening hthrough
    rw [reading, ← toList_seed_push_append, Array.toArray_toList]
    exact hreaches

/-- The states that a scan goes through are those that have read what stands where it began. -/
theorem exists_reaches_iff_readsFrom (hbound : -source.size ≤ position) :
    (∃ steps, Reaches config source (startingAt position) steps scanner) ↔
      ReadsFrom source position scanner := by
  constructor
  · rintro ⟨steps, h⟩
    exact h.readsFrom hbound (readsFrom_startingAt source position)
  · rintro ⟨gap, text, rest, mode, hgap, hreads, hahead, rfl⟩
    exact ⟨_, reaches_reading hbound hgap hreads hahead⟩

end Scanner

end LogicLexer
