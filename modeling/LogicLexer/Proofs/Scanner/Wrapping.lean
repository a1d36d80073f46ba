import LogicLexer.Proofs.Scanner.Steps
import LogicLexer.Proofs.Settling

/-!
# Scanning from a negative position

From a negative position a scan reads the end of the source first, and then goes on with the
source from its beginning. It reads what it would read in a text made of these two parts, and
it does the same there: the two scans go through the same states step by step, at a fixed
distance from each other, and come to the same token or to the same fault. Only what is copied
from the source, a lexeme or the text behind a fault, is different.

## Main definitions

* `Source.wrapped` — the text that is read from a negative position on
* `Source.ReadsAs` — a source that is read at a distance as another is from its beginning
* `Scanner.moved` — a state at another place
* `ScansAlike` — two scans that come to the same, at a distance

## Main results

* `Scanner.step_moved` — one step at a distance
* `Scanner.Reaches.moved`, `Scanner.EndsAfter.moved` — a row of steps at a distance
* `scan_wrapped` — a scan from a negative position goes as one over the wrapped text
-/

namespace LogicLexer

open Lexeme

/-- The text that is read from a negative position on: the source from there to its end, and
then all of it. -/
def Source.wrapped (source : Source) (position : Int) : Source :=
  (source.suffix (source.size + position) ++ source.toList).toArray

/-- At the distance the source is read as the other is from its beginning. -/
def Source.ReadsAs (distance : Int) (source other : Source) : Prop :=
  ∀ position, 0 ≤ position → source.peek (position + distance) = other.peek position

/-- Two scans come to the same, the second one at the distance from the first: to the end of
the source without a token, to tokens of the same meaning, or to the same fault. -/
inductive ScansAlike (distance : Int) :
    Except Failure (Option Token × Int) → Except Failure (Option Token × Int) → Prop
  | blank (next : Int) : ScansAlike distance (.ok (none, next)) (.ok (none, next + distance))
  | token {token other : Token} (next : Int) : token.meaning = other.meaning →
      ScansAlike distance (.ok (some token, next)) (.ok (some other, next + distance))
  | unrecognized (char rest other : Text) (offset : Int) (advice : Advice) :
      ScansAlike distance (.error (.lexical (.unrecognized char rest offset advice)))
        (.error (.lexical (.unrecognized char other (offset + distance) advice)))
  | malformed (lexeme context other : Text) (offset : Int) (advice : Advice) :
      ScansAlike distance (.error (.lexical (.malformed lexeme offset context advice)))
        (.error (.lexical (.malformed lexeme (offset + distance) other advice)))

variable {config : Config} {source other : Source} {distance position : Int}

/-- From a negative position the wrapped text is ahead. -/
theorem Source.toList_wrapped (hbound : -source.size ≤ position) (hneg : position < 0) :
    (source.wrapped position).toList = source.ahead position := by
  obtain ⟨n, hn⟩ := Int.le.dest hbound
  have hfirst : source.size + position = n := by omega
  have hsuffix : source.suffix n = source.suffix position := by
    rw [suffix_natCast source (by omega), suffix_of_neg hneg]
    congr 1
    omega
  rw [wrapped, ahead, if_pos hneg, hfirst, hsuffix]

/-- From a negative position a source is read as its wrapped text is from its beginning. -/
theorem Source.readsAs_wrapped (hbound : -source.size ≤ position) (hneg : position < 0) :
    source.ReadsAs position (source.wrapped position) := by
  intro i hi
  obtain ⟨n, rfl⟩ := Int.eq_ofNat_of_zero_le hi
  rw [peek_eq (by omega), peek_eq (by omega), Int.add_comm, ahead_add hbound, ahead_natCast,
    toList_wrapped hbound hneg]

/-- A character is ahead of a position where the source has it. -/
theorem Source.charAt_of_peek {c : Char} (h : source.peek position = .ok (some c)) :
    source.charAt position = .ok c := by
  unfold peek at h
  split at h
  · simp at h
  · split at h <;> simp_all

/-- Where a numeral stands matters only to the error about a malformed one. -/
theorem Lexeme.numeral_anywhere (text : Text) :
    (∃ outcome : Except Failure Token, (∀ error, outcome ≠ .error (.lexical error)) ∧
      ∀ source offset, numeral text source offset = outcome) ∨
    ∀ source offset, ∃ context, numeral text source offset =
      .error (.lexical (.malformed text offset context LexError.malformedAdvice)) := by
  by_cases hcount : 1 < text.count point
  · exact .inr fun source offset => ⟨_, if_pos hcount⟩
  · have hanywhere (source : Source) (offset : Int) : numeral text source offset = _ :=
      if_neg hcount
    refine .inl ⟨_, ?_, hanywhere⟩
    rw [← hanywhere #[] 0]
    exact numeral_ne_lexical (Nat.not_lt.1 hcount) #[] 0

namespace Scanner

variable {scanner later next : Scanner} {steps : Nat} {c : Char}

/-! ### States at a distance -/

/-- The state at a distance from where the scanner is. -/
def moved (distance : Int) (scanner : Scanner) : Scanner :=
  { scanner with start := scanner.start + distance, position := scanner.position + distance }

theorem moved_startingAt (distance position : Int) :
    (startingAt position).moved distance = startingAt (position + distance) := rfl

theorem moved_zero : scanner.moved 0 = scanner := by
  simp [moved]

theorem skip_moved : (scanner.moved distance).skip = scanner.skip.moved distance := by
  simp only [skip, moved, Scanner.mk.injEq, true_and]
  omega

theorem take_moved (mode : Mode) :
    (scanner.moved distance).take mode c = (scanner.take mode c).moved distance := by
  simp only [take, moved, Scanner.mk.injEq, true_and]
  omega

theorem opened_moved (mode : Mode) :
    (scanner.moved distance).opened mode c = (scanner.opened mode c).moved distance := by
  simp only [opened, take, moved, Scanner.mk.injEq, true_and]
  omega

/-- Two steps do the same, the second one at the distance from the first. -/
inductive StepsAlike (distance : Int) : Except Failure Step → Except Failure Step → Prop
  | resume (next : Scanner) :
      StepsAlike distance (.ok (.resume next)) (.ok (.resume (next.moved distance)))
  | ends {left right : Except Failure Step} {first second : Except Failure (Option Token × Int)} :
      Step.outcome? left = some first → Step.outcome? right = some second →
      ScansAlike distance first second → StepsAlike distance left right

/-! ### One step -/

/-- Where a scanner stands matters to the token of what it has taken in only if that is a
malformed numeral. -/
theorem finished_anywhere (config : Config) (scanner : Scanner) :
    (∃ outcome, (∀ error, outcome ≠ .error (.lexical error)) ∧
      ∀ source distance, (scanner.moved distance).finished config source = outcome) ∨
    ∃ lexeme, ∀ source distance, ∃ context, (scanner.moved distance).finished config source =
      .error (.lexical
        (.malformed lexeme (scanner.start + distance) context LexError.malformedAdvice)) := by
  by_cases hmode : scanner.mode = .numeric ∨ scanner.mode = .numericPoint
  · have hfinished (source distance) : (scanner.moved distance).finished config source =
        numeral scanner.buffer.toList source (scanner.start + distance) := by
      rcases hmode with hmode | hmode <;> simp only [finished, moved, hmode]
    rcases numeral_anywhere scanner.buffer.toList with ⟨outcome, hne, h⟩ | h
    · exact .inl ⟨outcome, hne, fun source distance => (hfinished source distance).trans (h _ _)⟩
    · refine .inr ⟨scanner.buffer.toList, fun source distance => ?_⟩
      rw [hfinished]
      exact h source (scanner.start + distance)
  · refine .inl ⟨.ok (config.resolve scanner.buffer.toList), by simp, fun source distance => ?_⟩
    cases hm : scanner.mode <;> simp_all [finished, moved, Config.resolved_eq]

/-- A token ends alike at a distance. -/
theorem finish_moved (source : Source) (hsettles : Settles (scanner.finish config other)) :
    StepsAlike distance (scanner.finish config other)
      ((scanner.moved distance).finish config source) := by
  rcases finished_anywhere config scanner with ⟨outcome, hne, h⟩ | ⟨lexeme, h⟩
  · have hother := h other 0
    rw [moved_zero] at hother
    cases outcome with
    | ok token =>
      rw [finish, finish, hother, h source distance]
      exact .ends rfl rfl (.token _ rfl)
    | error failure =>
      rw [finish, hother] at hsettles
      obtain ⟨error, rfl⟩ := hsettles.exists_lexical rfl
      exact absurd rfl (hne error)
  · obtain ⟨context, hother⟩ := h other 0
    obtain ⟨context', hsource⟩ := h source distance
    rw [moved_zero, Int.add_zero] at hother
    rw [finish, finish, hother, hsource]
    exact .ends rfl rfl (.malformed _ _ _ _ _)

/-- A scanner that has taken in nothing yet does the same with a character at a distance. -/
theorem enter_moved (hother : other.charAt scanner.position = .ok c)
    (hsource : source.charAt (scanner.position + distance) = .ok c) :
    StepsAlike distance (scanner.enter other c) ((scanner.moved distance).enter source c) := by
  by_cases hblank : isBlank c = true
  · rw [enter, enter, if_pos hblank, if_pos hblank, skip_moved]
    exact .resume _
  · cases hopening : Mode.opening? c with
    | some mode =>
      simp only [enter, hblank, hopening, opened_moved]
      exact .resume _
    | none =>
      simp only [enter, hblank, hopening, LexError.unrecognizedAt, hother, moved, hsource]
      exact .ends rfl rfl (.unrecognized _ _ _ _ _)

/-- A scanner within a token does the same with a character at a distance. -/
theorem proceed_moved (source : Source) (hsettles : Settles (scanner.proceed config other c)) :
    StepsAlike distance (scanner.proceed config other c)
      ((scanner.moved distance).proceed config source c) := by
  have hmode : (scanner.moved distance).mode = scanner.mode := rfl
  unfold proceed at hsettles ⊢
  rw [hmode]
  cases hfollow : scanner.mode.following? c with
  | some mode =>
    simp only [take_moved]
    exact .resume _
  | none =>
    simp only [hfollow] at hsettles ⊢
    split
    · rw [if_pos ‹_›] at hsettles
      rw [take_moved]
      exact finish_moved source hsettles
    · rw [if_neg ‹_›] at hsettles
      exact finish_moved source hsettles

/-- One step at a distance does the same, whatever the scanner is in the middle of. -/
theorem step_moved (hreads : source.ReadsAs distance other) (hposition : 0 ≤ scanner.position)
    (hsettles : Settles (scanner.step config other)) :
    StepsAlike distance (scanner.step config other) ((scanner.moved distance).step config source) := by
  have hpeek : source.peek (scanner.moved distance).position = other.peek scanner.position :=
    hreads scanner.position hposition
  cases hahead : other.peek scanner.position with
  | error failure =>
    -- from its beginning on a source can be read
    rw [Source.peek_eq (by omega)] at hahead
    cases hahead
  | ok char? =>
    rw [hahead] at hpeek
    by_cases hmode : scanner.mode = .start
    · have hmode' : (scanner.moved distance).mode = .start := hmode
      rw [step_of_start hmode hahead, step_of_start hmode' hpeek]
      cases char? with
      | none => exact .ends rfl rfl (.blank _)
      | some c => exact enter_moved (Source.charAt_of_peek hahead) (Source.charAt_of_peek hpeek)
    · have hmode' : (scanner.moved distance).mode ≠ .start := hmode
      rw [step_of_ne_start hmode hahead] at hsettles ⊢
      rw [step_of_ne_start hmode' hpeek]
      cases char? with
      | none => exact finish_moved source hsettles
      | some c => exact proceed_moved source hsettles

/-! ### Rows of steps -/

/-- A step that goes on does so at a distance. -/
theorem step_moved_of_resume (hreads : source.ReadsAs distance other)
    (hposition : 0 ≤ scanner.position) (hstep : scanner.step config other = .ok (.resume next)) :
    (scanner.moved distance).step config source = .ok (.resume (next.moved distance)) := by
  have halike := step_moved hreads hposition (hstep ▸ settles_ok (Step.resume next))
  rw [hstep] at halike
  generalize (scanner.moved distance).step config source = right at halike
  cases halike with
  | resume next => rfl
  | ends hleft => cases hleft

/-- A step that ends a run does so at a distance, and to the same outcome. -/
theorem outcome?_step_moved {outcome : Except Failure (Option Token × Int)}
    (hreads : source.ReadsAs distance other) (hposition : 0 ≤ scanner.position)
    (houtcome : Step.outcome? (scanner.step config other) = some outcome)
    (hsettles : Settles outcome) :
    ∃ outcome', Step.outcome? ((scanner.moved distance).step config source) = some outcome' ∧
      ScansAlike distance outcome outcome' := by
  have hstep : Settles (scanner.step config other) := by
    cases hnext : scanner.step config other with
    | ok next => exact settles_ok next
    | error failure =>
      rw [hnext] at houtcome
      obtain rfl := Option.some.inj houtcome
      rcases hsettles with ⟨_, h⟩ | ⟨_, h, hsource⟩
      · cases h
      · obtain rfl := Except.error.inj h
        exact .inr ⟨failure, rfl, hsource⟩
  have halike := step_moved hreads hposition hstep
  generalize scanner.step config other = left at halike houtcome
  generalize (scanner.moved distance).step config source = right at halike
  cases halike with
  | resume next => cases houtcome
  | @ends _ _ first second hleft hright hscans =>
    rw [hleft] at houtcome
    obtain rfl := Option.some.inj houtcome
    exact ⟨second, hright, hscans⟩

/-- A row of steps is gone through at a distance, state by state. -/
theorem Reaches.moved (hreads : source.ReadsAs distance other)
    (h : Reaches config other scanner steps later) (hposition : 0 ≤ scanner.position) :
    Reaches config source (scanner.moved distance) steps (later.moved distance) := by
  induction h with
  | refl scanner => exact .refl _
  | step hstep _ ih =>
    have hnext := (position_of_resume hstep).1
    exact .step (step_moved_of_resume hreads hposition hstep) (ih (by omega))

/-- A run ends after the same steps at a distance, and to the same outcome. -/
theorem EndsAfter.moved {outcome : Except Failure (Option Token × Int)}
    (hreads : source.ReadsAs distance other) (h : scanner.EndsAfter config other steps outcome)
    (hposition : 0 ≤ scanner.position) (hsettles : Settles outcome) :
    ∃ outcome', (scanner.moved distance).EndsAfter config source steps outcome' ∧
      ScansAlike distance outcome outcome' := by
  obtain ⟨last, hreaches, houtcome⟩ := h
  have hlast := hreaches.position_eq
  obtain ⟨outcome', houtcome', hscans⟩ :=
    outcome?_step_moved hreads (by omega) houtcome hsettles
  exact ⟨outcome', ⟨last.moved distance, hreaches.moved hreads hposition, houtcome'⟩, hscans⟩

end Scanner

/-- From a negative position a scan goes as one over the wrapped text does from its beginning.
It goes through the same states after the same steps, as far away as the position says, both
end after equally many steps, and they come to the same token or to the same fault. -/
theorem scan_wrapped (hbound : -source.size ≤ position) (hneg : position < 0) :
    (∀ steps later,
      Scanner.Reaches config (source.wrapped position) (.startingAt 0) steps later →
      Scanner.Reaches config source (.startingAt position) steps (later.moved position)) ∧
    (∃ steps,
      (Scanner.startingAt 0).EndsAfter config (source.wrapped position) steps
        (scan config (source.wrapped position) 0) ∧
      (Scanner.startingAt position).EndsAfter config source steps (scan config source position)) ∧
    ScansAlike position (scan config (source.wrapped position) 0) (scan config source position) := by
  have hreads := Source.readsAs_wrapped hbound hneg
  have hstart : (Scanner.startingAt 0).moved position = .startingAt position := by
    rw [Scanner.moved_startingAt, Int.zero_add]
  obtain ⟨steps, -, hends⟩ :=
    Scanner.exists_endsAfter_run config (source.wrapped position) (.startingAt 0)
  obtain ⟨outcome, hmoved, hscans⟩ :=
    hends.moved hreads (Int.le_refl 0) (settles_scan (by omega))
  rw [hstart] at hmoved
  have hrun : outcome = scan config source position := hmoved.eq_run
  subst hrun
  refine ⟨fun steps later h => ?_, ⟨steps, hends, hmoved⟩, hscans⟩
  rw [← hstart]
  exact h.moved hreads (Int.le_refl 0)

/-- A numeral that begins with the last character of a source and goes on with its first ones. -/
theorem scan_wrapped_across_end :
    let source : Source := #['1', '.', '5']
    (-source.size ≤ (-1 : Int) ∧ (-1 : Int) < 0 ∧
      source.wrapped (-1) = #['5', '1', '.', '5']) ∧
      (∃ token : Token, token.meaning = .number ⟨51, 5⟩ ∧
        scan {} (source.wrapped (-1)) 0 = .ok (some token, 4)) ∧
      ∃ token : Token, token.meaning = .number ⟨51, 5⟩ ∧
        scan {} source (-1) = .ok (some token, 3) := by
  intro source
  have hwrapped : source.wrapped (-1) = #['5', '1', '.', '5'] := by decide
  have hlexeme : IsLexeme ['5', '1', '.', '5'] := by decide
  have hahead : (source.wrapped (-1)).ahead 0 = ['5', '1', '.', '5'] ++ [] := by
    rw [hwrapped, Source.ahead_zero, List.append_nil]
  have hfirst : scan {} (source.wrapped (-1)) 0 = _ :=
    scan_of_isLexeme (by omega) hlexeme hahead (by simp)
  obtain ⟨-, -, halike⟩ : _ ∧ _ ∧ ScansAlike (-1) (scan {} (source.wrapped (-1)) 0) _ :=
    scan_wrapped (by decide) (by decide)
  rw [hfirst] at halike
  refine ⟨⟨by decide, by decide, hwrapped⟩, ⟨_, by decide, hfirst⟩, ?_⟩
  generalize scan {} source (-1) = outcome at halike
  cases halike with
  | token next hmeaning => exact ⟨_, hmeaning.symm.trans (by decide), rfl⟩

end LogicLexer
