import LogicLexer.Scanner.Run

/-!
# The steps of a run

A run is a row of steps that go on, and then one step that ends it. Every step that goes on
moves by one character of the source, so a run goes on for as many steps as there are
characters before the end at most. The row of states is determined by the first of them.

## Main definitions

* `Scanner.Reaches` — so many steps that go on lead from one state to another
* `Step.outcome?` — what a run comes to with a step, if it does not go on
* `Scanner.EndsAfter` — so many steps that go on, and then a step that ends the run

## Main results

* `Scanner.Reaches.position_eq` — how far the steps move
* `Scanner.Reaches.run_eq` — steps that go on do not change what the run comes to
* `Scanner.exists_endsAfter_run` — a run ends, and how soon
* `Scanner.EndsAfter.eq_run` — whatever a row of steps ends with is what the run comes to
-/

namespace LogicLexer

/-- What a run comes to with a step, if it does not go on. -/
def Step.outcome? : Except Failure Step → Option (Except Failure (Option Token × Int))
  | .error failure => some (.error failure)
  | .ok (.stop token? position) => some (.ok (token?, position))
  | .ok (.resume _) => none

namespace Scanner

/-- So many steps that go on lead from one state of a scanner to another. -/
inductive Reaches (config : Config) (source : Source) : Scanner → Nat → Scanner → Prop
  | refl (scanner : Scanner) : Reaches config source scanner 0 scanner
  | step {scanner next later : Scanner} {steps : Nat} :
      scanner.step config source = .ok (.resume next) →
      Reaches config source next steps later → Reaches config source scanner (steps + 1) later

/-- After so many steps that go on comes a step that ends the run with the outcome. -/
def EndsAfter (config : Config) (source : Source) (scanner : Scanner) (steps : Nat)
    (outcome : Except Failure (Option Token × Int)) : Prop :=
  ∃ last, Reaches config source scanner steps last ∧
    Step.outcome? (last.step config source) = some outcome

variable {config : Config} {source : Source} {scanner next later : Scanner} {steps : Nat}

/-- Every step that goes on moves by one character. -/
theorem Reaches.position_eq (h : Reaches config source scanner steps later) :
    later.position = scanner.position + steps := by
  induction h with
  | refl scanner => simp
  | step hstep _ ih =>
    have hnext := (position_of_resume hstep).1
    omega

/-- Two rows of steps make one. -/
theorem Reaches.trans {more : Nat} (h : Reaches config source scanner steps next)
    (hmore : Reaches config source next more later) :
    Reaches config source scanner (steps + more) later := by
  induction h with
  | refl scanner => rwa [Nat.zero_add]
  | step hstep _ ih =>
    rw [Nat.add_right_comm]
    exact .step hstep (ih hmore)

/-- Steps that go on do not change what the run comes to. -/
theorem Reaches.run_eq (h : Reaches config source scanner steps later) :
    scanner.run config source = later.run config source := by
  induction h with
  | refl scanner => rfl
  | @step scanner next later steps hstep _ ih =>
    rw [Scanner.run_eq config source scanner, hstep]
    exact ih

/-- A step that does not go on is the last of the run. -/
theorem run_of_outcome? {outcome : Except Failure (Option Token × Int)}
    (h : Step.outcome? (scanner.step config source) = some outcome) :
    scanner.run config source = outcome := by
  rw [run_eq]
  cases hstep : scanner.step config source with
  | error failure =>
    rw [hstep] at h
    exact Option.some.inj h
  | ok next =>
    rw [hstep] at h
    cases next with
    | resume next => cases h
    | stop token? position => exact Option.some.inj h

/-- Whatever a row of steps ends with is what the run comes to. -/
theorem EndsAfter.eq_run {outcome : Except Failure (Option Token × Int)}
    (h : scanner.EndsAfter config source steps outcome) :
    outcome = scanner.run config source := by
  obtain ⟨last, hreaches, hending⟩ := h
  rw [hreaches.run_eq, run_of_outcome? hending]

/-- A run ends, and goes on for as many steps as there are positions before the end of the
source at most. -/
theorem exists_endsAfter_run (config : Config) (source : Source) (scanner : Scanner) :
    ∃ steps ≤ (source.size - scanner.position).toNat,
      scanner.EndsAfter config source steps (scanner.run config source) := by
  fun_induction run config source scanner with
  | case1 scanner failure hstep =>
    exact ⟨0, Nat.zero_le _, scanner, .refl scanner, by rw [hstep]; rfl⟩
  | case2 scanner token? position hstep =>
    exact ⟨0, Nat.zero_le _, scanner, .refl scanner, by rw [hstep]; rfl⟩
  | case3 scanner next hstep _ ih =>
    obtain ⟨steps, hsteps, last, hreaches, hending⟩ := ih
    obtain ⟨hnext, hlt⟩ := position_of_resume hstep
    exact ⟨steps + 1, by omega, last, .step hstep hreaches, hending⟩

end Scanner

end LogicLexer
