import LogicLexer.Lexeme
import LogicLexer.Scanner.Mode

/-!
# The scanner

A scanner recognizes one token. It starts at any position of a source, passes over
blanks, and then takes in characters for as long as the token can go on, looking one
character ahead. From a negative position it reads the end of the source first and then
goes on with the source from its beginning.

## Main definitions

* `Source.peek` — the character ahead of a position, if the source has not ended
* `Scanner` — the mode, what has been taken in, and where the token began
* `Scanner.step` — the effect of the character ahead
* `Scanner.Resumes` — how a scanner goes on with a character

## Main results

* `Scanner.step_of_start`, `Scanner.step_of_ne_start` — one step, before a token and within it
* `Scanner.step_eq_resume_iff` — when a step goes on, and how
* `Scanner.position_of_resume` — a step that goes on moves by one character of the
  source
* `Scanner.le_position_of_stop` — a step that stops does not move back
-/

namespace LogicLexer

/-- The character ahead of a position. At and after the end of the source there is none;
a position that wraps to before its beginning is out of range. -/
def Source.peek (source : Source) (position : Int) : Except Failure (Option Char) :=
  if source.size ≤ position then .ok none
  else
    match source.charAt position with
    | .ok c => .ok (some c)
    | .error reason => .error (.misplaced reason)

/-- A scanner in the course of one token. -/
structure Scanner where
  mode : Mode
  buffer : Array Char
  start : Int
  position : Int
  deriving DecidableEq, Repr

/-- What a step leads to. -/
inductive Step
  | resume (next : Scanner)
  | stop (token? : Option Token) (position : Int)
  deriving DecidableEq, Repr

namespace Scanner

/-- A scanner about to look for a token from a position on. -/
def startingAt (position : Int) : Scanner :=
  ⟨.start, #[], position, position⟩

/-- Pass over a character that belongs to no token. -/
def skip (scanner : Scanner) : Scanner :=
  { scanner with start := scanner.position + 1, position := scanner.position + 1 }

/-- Take in a character and change to a mode. -/
def take (scanner : Scanner) (mode : Mode) (c : Char) : Scanner :=
  { scanner with
    mode := mode, buffer := scanner.buffer.push c, position := scanner.position + 1 }

/-- Take in the first character of a token. -/
def opened (scanner : Scanner) (mode : Mode) (c : Char) : Scanner :=
  { scanner with buffer := scanner.buffer ++ Mode.seed c }.take mode c

/-- The token of what has been taken in. -/
def finished (config : Config) (source : Source) (scanner : Scanner) : Except Failure Token :=
  match scanner.mode with
  | .numeric | .numericPoint => Lexeme.numeral scanner.buffer.toList source scanner.start
  | _ => config.resolved scanner.buffer.toList

/-- Stop with the token of what has been taken in. Its lexeme is the piece of source
from the start of the token. -/
def finish (config : Config) (source : Source) (scanner : Scanner) : Except Failure Step :=
  (scanner.finished config source).map fun token =>
    .stop (some { token with lexeme := source.slice scanner.start scanner.position })
      scanner.position

/-- The effect of a character ahead of a scanner that has taken in nothing yet. -/
def enter (source : Source) (scanner : Scanner) (c : Char) : Except Failure Step :=
  if isBlank c then .ok (.resume scanner.skip)
  else
    match Mode.opening? c with
    | some mode => .ok (.resume (scanner.opened mode c))
    | none =>
      -- the character ahead stands at this position, so the position has an error
      match LexError.unrecognizedAt source scanner.position with
      | .ok error => .error (.lexical error)
      | .error reason => .error (.misplaced reason)

/-- The effect of a character ahead of a scanner within a token. -/
def proceed (config : Config) (source : Source) (scanner : Scanner) (c : Char) :
    Except Failure Step :=
  match scanner.mode.following? c with
  | some mode => .ok (.resume (scanner.take mode c))
  | none =>
    -- only the angle of an arrow still belongs to the token; any other character is left
    if scanner.mode.isClosedBy c then (scanner.take scanner.mode c).finish config source
    else scanner.finish config source

/-- The effect of what lies ahead of a scanner. -/
def step (config : Config) (source : Source) (scanner : Scanner) : Except Failure Step :=
  match source.peek scanner.position, scanner.mode with
  | .error failure, _ => .error failure
  | .ok none, .start => .ok (.stop none scanner.position)
  | .ok none, _ => scanner.finish config source
  | .ok (some c), .start => scanner.enter source c
  | .ok (some c), _ => scanner.proceed config source c

variable {config : Config} {source : Source} {scanner next : Scanner} {c : Char}
  {token? : Option Token} {position : Int}

/-! ### What is ahead -/

/-- There is a character ahead of a position only before the end of the source. -/
theorem lt_size_of_peek (h : source.peek position = .ok (some c)) : position < source.size := by
  unfold Source.peek at h
  split at h
  · simp at h
  · omega

/-- Nothing is ahead only where the source has ended. -/
theorem size_le_of_peek (h : source.peek position = .ok none) : source.size ≤ position := by
  unfold Source.peek at h
  split at h
  · assumption
  · split at h <;> simp at h

/-! ### Steps that go on -/

/-- Stopping leaves the position where it is. -/
theorem finish_eq_ok {next : Step} (h : scanner.finish config source = .ok next) :
    ∃ token, next = .stop (some token) scanner.position := by
  unfold finish at h
  cases hf : scanner.finished config source with
  | error failure => simp [hf, Except.map] at h
  | ok token =>
    simp only [hf, Except.map, Except.ok.injEq] at h
    exact ⟨_, h.symm⟩

theorem finish_ne_resume : scanner.finish config source ≠ .ok (.resume next) := by
  intro h
  obtain ⟨token, htoken⟩ := finish_eq_ok h
  cases htoken

/-- Before a token a scanner looks at what is ahead. -/
theorem step_of_start {char? : Option Char} (hmode : scanner.mode = .start)
    (hpeek : source.peek scanner.position = .ok char?) :
    scanner.step config source =
      char?.elim (.ok (.stop none scanner.position)) (scanner.enter source) := by
  rw [step, hpeek]
  cases char? <;> simp only [hmode, Option.elim]

/-- Within a token a scanner finishes where nothing is ahead, and else may go on. -/
theorem step_of_ne_start {char? : Option Char} (hmode : scanner.mode ≠ .start)
    (hpeek : source.peek scanner.position = .ok char?) :
    scanner.step config source =
      char?.elim (scanner.finish config source) (scanner.proceed config source) := by
  rw [step, hpeek]
  cases char? <;> simp only [Option.elim]

/-- How a scanner goes on with the character ahead: it passes over a blank, takes in the first
character of a token, or takes in one more. -/
inductive Resumes (scanner : Scanner) (c : Char) : Scanner → Prop
  | skip : scanner.mode = .start → isBlank c = true → Resumes scanner c scanner.skip
  | opened {mode : Mode} : scanner.mode = .start → isBlank c = false →
      Mode.opening? c = some mode → Resumes scanner c (scanner.opened mode c)
  | take {mode : Mode} : scanner.mode.following? c = some mode →
      Resumes scanner c (scanner.take mode c)

/-- Nothing goes on with a token that has not begun. -/
theorem ne_start_of_following? {mode : Mode} (h : scanner.mode.following? c = some mode) :
    scanner.mode ≠ .start := by
  intro hmode
  rw [hmode] at h
  cases h

theorem enter_eq_resume_iff (hmode : scanner.mode = .start) :
    scanner.enter source c = .ok (.resume next) ↔ scanner.Resumes c next := by
  constructor
  · intro h
    unfold enter at h
    split at h
    · obtain rfl := Step.resume.inj (Except.ok.inj h)
      exact .skip hmode ‹_›
    · split at h
      · obtain rfl := Step.resume.inj (Except.ok.inj h)
        exact .opened hmode (Bool.not_eq_true _ ▸ ‹_›) ‹_›
      · split at h <;> cases h
  · intro h
    cases h with
    | skip _ hblank => rw [enter, if_pos hblank]
    | opened _ hblank hopening => simp only [enter, hblank, hopening, Bool.false_eq_true, if_false]
    | take hfollow => exact absurd hmode (ne_start_of_following? hfollow)

theorem proceed_eq_resume_iff (hmode : scanner.mode ≠ .start) :
    scanner.proceed config source c = .ok (.resume next) ↔ scanner.Resumes c next := by
  constructor
  · intro h
    unfold proceed at h
    split at h
    · obtain rfl := Step.resume.inj (Except.ok.inj h)
      exact .take ‹_›
    · split at h <;> exact absurd h finish_ne_resume
  · intro h
    cases h with
    | skip hstart => exact absurd hstart hmode
    | opened hstart => exact absurd hstart hmode
    | take hfollow => simp only [proceed, hfollow]

/-- A step goes on exactly if a character is ahead that the scanner goes on with. -/
theorem step_eq_resume_iff :
    scanner.step config source = .ok (.resume next) ↔
      ∃ c, source.peek scanner.position = .ok (some c) ∧ scanner.Resumes c next := by
  cases hpeek : source.peek scanner.position with
  | error failure => simp [step, hpeek]
  | ok char? =>
    by_cases hmode : scanner.mode = .start
    · rw [step_of_start hmode hpeek]
      cases char? with
      | none => simp
      | some c => simpa using enter_eq_resume_iff hmode
    · rw [step_of_ne_start hmode hpeek]
      cases char? with
      | none => simpa using finish_ne_resume
      | some c => simpa using proceed_eq_resume_iff hmode

/-- A step that goes on moves by one character of the source. -/
theorem position_of_resume (h : scanner.step config source = .ok (.resume next)) :
    next.position = scanner.position + 1 ∧ scanner.position < source.size := by
  obtain ⟨c, hpeek, hresumes⟩ := step_eq_resume_iff.1 h
  refine ⟨?_, lt_size_of_peek hpeek⟩
  cases hresumes with
  | skip => rfl
  | opened => rfl
  | take => rfl

/-! ### Steps that stop -/

/-- A character ahead of a scanner that has taken in nothing yet does not stop it. -/
theorem enter_ne_stop : scanner.enter source c ≠ .ok (.stop token? position) := by
  intro h
  unfold enter at h
  split at h
  · cases h
  · split at h
    · cases h
    · split at h <;> cases h

/-- A step that stops does not move back. -/
theorem le_position_of_stop (h : scanner.step config source = .ok (.stop token? position)) :
    scanner.position ≤ position := by
  have hfinish {last : Scanner} (h : last.finish config source = .ok (.stop token? position)) :
      position = last.position := by
    obtain ⟨token, htoken⟩ := finish_eq_ok h
    exact (Step.stop.inj htoken).2
  cases hpeek : source.peek scanner.position with
  | error failure => simp [step, hpeek] at h
  | ok char? =>
    by_cases hmode : scanner.mode = .start
    · rw [step_of_start hmode hpeek] at h
      cases char? with
      | none => exact Int.le_of_eq (Step.stop.inj (Except.ok.inj h)).2
      | some c => exact absurd h enter_ne_stop
    · rw [step_of_ne_start hmode hpeek] at h
      cases char? with
      | none => exact Int.le_of_eq (hfinish h).symm
      | some c =>
        simp only [Option.elim, proceed] at h
        split at h
        · cases h
        · split at h
          · have := hfinish h
            simp only [take] at this
            omega
          · exact Int.le_of_eq (hfinish h).symm

/-- A scanner that has taken in nothing yet stops only where nothing is ahead. -/
theorem size_le_of_stop_of_start (hmode : scanner.mode = .start)
    (h : scanner.step config source = .ok (.stop token? position)) :
    source.size ≤ scanner.position := by
  cases hpeek : source.peek scanner.position with
  | error failure => simp [step, hpeek] at h
  | ok char? =>
    rw [step_of_start hmode hpeek] at h
    cases char? with
    | none => exact size_le_of_peek hpeek
    | some c => exact absurd h enter_ne_stop

end Scanner

end LogicLexer
