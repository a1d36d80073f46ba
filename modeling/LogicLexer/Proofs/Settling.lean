import LogicLexer.Proofs.RoundTrip
import LogicLexer.Proofs.Tokenize.FirstFault

/-!
# What can go wrong

A scan can be asked to begin before the beginning of its source, and then there is no
character to begin with. From any other position, also one that counts from the end, it
settles: it comes to a result or to one of the two faults of a source. The other failures
never arise. A digit run that has been taken in can always be read, since none of its blocks
has too many digits to be converted, and a text never stands for a kind that carries a value.
So the reading of a text settles as well, and what has been read can be written under any
configuration.

## Main definitions

* `Failure.OfSource` — the failures that are about the source
* `Settles` — a result, or a failure that is about the source

## Main results

* `scan_of_lt_neg_size` — a scan that begins before the beginning of its source
* `settles_scan` — a scan that begins anywhere else
* `settles_and_misplaced_iff` — what scanning, reading and writing can fail with
-/

namespace LogicLexer

open Lexeme

variable {config : Config} {source : Source} {position : Int}

/-- The failure is about the source: it has a character that no token begins with, or a
numeral that is malformed. -/
inductive Failure.OfSource : Failure → Prop
  | unrecognized (c : Char) (remaining : Text) (diagnostic : Diagnostic) :
      OfSource (.lexical ⟨.unrecognized [c] remaining, diagnostic⟩)
  | malformed (lexeme : Text) (diagnostic : Diagnostic) :
      OfSource (.lexical ⟨.malformed lexeme, diagnostic⟩)

/-- There is a result, or a failure that is about the source. -/
def Settles {α : Type} (outcome : Except Failure α) : Prop :=
  (∃ result, outcome = .ok result) ∨ ∃ failure, outcome = .error failure ∧ failure.OfSource

theorem settles_ok {α : Type} (result : α) : Settles (.ok result) :=
  .inl ⟨result, rfl⟩

/-- What is done with a result does not change whether there is one. -/
theorem Settles.map {α β : Type} {outcome : Except Failure α} (h : Settles outcome) (f : α → β) :
    Settles (outcome.map f) := by
  rcases h with ⟨result, rfl⟩ | ⟨failure, rfl, hsource⟩
  · exact settles_ok (f result)
  · exact .inr ⟨failure, rfl, hsource⟩

/-- The error of a fault is about the source. -/
theorem settles_error_ofFault {α : Type} {ahead : Text} (h : BeginsFaulty ahead) (position : Int)
    (context : Text) :
    Settles (.error (.lexical (.ofFault position context ahead)) : Except Failure α) := by
  refine .inr ⟨_, rfl, ?_⟩
  rcases h with ⟨c, hc, hstray⟩ | hmalformed
  · obtain ⟨rest, rfl⟩ := List.head?_eq_some_iff.1 hc
    rw [LexError.ofFault_of_isStray hstray]
    exact .unrecognized _ _ _
  · rw [LexError.ofFault_of_beginsMalformed hmalformed]
    exact .malformed _ _

/-! ### Scans -/

/-- Before the beginning of the source there is no character to begin with. -/
theorem scan_of_lt_neg_size (h : position < -source.size) :
    scan config source position = .error (.misplaced (.of position)) := by
  have hchar : source.charAt position = .error (.of position) :=
    (Source.charAt_eq_error_iff source position _).2 ⟨.inr h, rfl⟩
  have hpeek : source.peek position = .error (.misplaced (.of position)) := by
    rw [Source.peek, if_neg (by omega), hchar]
  rw [scan, Scanner.run_eq, Scanner.step]
  simp only [Scanner.startingAt, hpeek]

/-- From any other position a scan settles, whatever it reads and however often it reads it. -/
theorem settles_scan (h : -source.size ≤ position) : Settles (scan config source position) := by
  -- what comes after the blanks ahead decides, also where it lies past the end of the source
  generalize hahead : source.ahead position = ahead
  cases front ahead with
  | blank hgap =>
    rw [scan_of_gap h (hahead.symm ▸ hgap)]
    exact settles_ok _
  | @lexeme gap lexeme rest hgap hlexeme hfollow =>
    rw [scan_of_gap_lexeme h hgap hlexeme hahead hfollow]
    exact settles_ok _
  | fault hgap hfault =>
    rw [scan_of_fault h hgap hfault hahead]
    exact settles_error_ofFault hfault _ _

/-- A failure that is about the source is a lexical error. -/
theorem Settles.exists_lexical {α : Type} {outcome : Except Failure α} {failure : Failure}
    (h : Settles outcome) (hfailure : outcome = .error failure) :
    ∃ error, failure = .lexical error := by
  subst hfailure
  rcases h with ⟨result, hresult⟩ | ⟨failure', hfailure, hsource⟩
  · cases hresult
  · obtain rfl := Except.error.inj hfailure
    cases hsource <;> exact ⟨_, rfl⟩

/-! ### Texts -/

/-- The reading of a text settles. -/
theorem settles_tokenize (config : Config) (text : Text) : Settles (tokenize config text) := by
  cases h : tokenize config text with
  | ok tokens => exact settles_ok tokens
  | error failure =>
    obtain ⟨offset, hfault⟩ := exists_faultAt_of_tokenize h
    rw [← h, tokenize_of_faultAt hfault]
    exact settles_error_ofFault hfault.fault _ _

/-- A kind that a text stands for is never one that carries a value, so it has a bare token. -/
theorem Config.exists_ofKind_of_kindOf? {text : Text} {kind : Kind}
    (h : config.kindOf? text = some kind) : ∃ token, Token.ofKind kind text = .ok token := by
  obtain ⟨token, htoken⟩ := config.exists_resolved text
  rw [resolved, h] at htoken
  exact ⟨token, htoken⟩

/-- A scan is misplaced exactly if it begins before the beginning of its source. From any other
position it settles, and so does the scan of the front of a text and the reading of a text.
Digit runs of any length are converted and texts looked up without a failure, and what has been
read is written without one. -/
theorem settles_and_misplaced_iff (config : Config) :
    (∀ (source : Source) (position : Int),
      ((∃ reason, scan config source position = .error (.misplaced reason)) ↔
        position < -source.size) ∧
      (-source.size ≤ position → Settles (scan config source position))) ∧
    (∀ digits, (∀ c ∈ digits, isDigit c = true) → ∃ n, digitRun digits = .ok n) ∧
    (∀ text kind, config.kindOf? text = some kind →
      ∃ token, Token.ofKind kind text = .ok token) ∧
    ∀ text, Settles (scanFront config text) ∧ Settles (tokenize config text) ∧
      ∀ tokens, tokenize config text = .ok tokens →
        ∀ other, ∃ rendered, render other tokens = .ok rendered := by
  refine ⟨fun source position => ⟨⟨?_, ?_⟩, settles_scan⟩,
    fun _ hdigits => ⟨_, digitRun_eq hdigits⟩, fun _ _ => Config.exists_ofKind_of_kindOf?,
    fun text => ⟨?_, settles_tokenize config text, ?_⟩⟩
  · rintro ⟨reason, hmisplaced⟩
    rw [← Int.not_le]
    intro hle
    obtain ⟨error, herror⟩ := (settles_scan hle).exists_lexical hmisplaced
    exact Failure.noConfusion herror
  · intro hlt
    exact ⟨_, scan_of_lt_neg_size hlt⟩
  · exact (settles_scan (by omega)).map _
  · intro tokens hread other
    obtain ⟨rendered, -, hrender, -⟩ :=
      tokenize_render_of_lexable (lexable_of_tokenize hread) other other
    exact ⟨rendered, hrender⟩

end LogicLexer
