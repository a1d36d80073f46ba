import Mathlib.Data.List.Chain
import LogicLexer.Tokenize
import LogicLexer.Proofs.Scanner.Progress
import LogicLexer.Proofs.Scanner.Steps

/-!
# The progress of a pass

A pass scans from where the scan before ended, and every scan takes it on, so it comes to the
end of the source or to a scan that fails. All its scans but the last find tokens, each of
which takes a character that is no blank.

## Main definitions

* `Passes` — scanning again and again, until it comes to an end
* `Pass.path` — the positions that a pass comes to
* `Pass.calls` — how many scans a pass makes, a failing one included

## Main results

* `passes_pass` — a pass comes to its end
* `Passes.pairwise_path`, `Passes.calls_le`, `Passes.length_tokens_le` — what a pass comes to,
  how many scans it makes and how many tokens it finds
* `scan_and_pass_end` — every scan and every pass ends, and how far and how soon
-/

namespace LogicLexer

open Scanner

/-- Scanning again and again from where the scan before ended comes to an end: to the end of
the source, or to a scan that fails. -/
inductive Passes (config : Config) (source : Source) : Int → Pass → Prop
  | ends {position : Int} : source.size ≤ position → Passes config source position ⟨[], none⟩
  | fails {position : Int} {failure : Failure} : position < source.size →
      scan config source position = .error failure →
      Passes config source position ⟨[], some failure⟩
  | scans {position next : Int} {token? : Option Token} {pass : Pass} :
      position < source.size → scan config source position = .ok (token?, next) →
      Passes config source next pass →
      Passes config source position (pass.after ⟨position, token?, next⟩)

namespace Pass

/-- The positions that a pass comes to, from the one that it begins at. -/
def path (position : Int) (pass : Pass) : List Int :=
  position :: pass.visits.map Visit.next

/-- How many scans a pass makes. A scan that fails is one of them. -/
def calls (pass : Pass) : Nat :=
  pass.visits.length + pass.failure?.toList.length

theorem tokens_after (visit : Visit) (pass : Pass) :
    (pass.after visit).tokens = visit.token?.toList ++ pass.tokens := by
  rw [tokens, after, List.filterMap_cons]
  cases visit.token? <;> rfl

theorem calls_after (visit : Visit) (pass : Pass) : (pass.after visit).calls = pass.calls + 1 :=
  Nat.add_right_comm _ _ _

end Pass

variable {config : Config} {source : Source} {position : Int} {found : Pass}

/-- From every position a pass comes to its end. -/
theorem passes_pass (config : Config) (source : Source) (position : Int) :
    Passes config source position (pass config source position) := by
  -- a scan leaves fewer positions before the end of the source
  induction hn : (source.size - position).toNat using Nat.strongRecOn generalizing position with
  | ind n ih =>
    by_cases hlt : position < source.size
    · cases hscan : scan config source position with
      | error failure =>
        rw [pass_of_error hlt hscan]
        exact .fails hlt hscan
      | ok found =>
        have hnext := lt_of_scan hscan hlt
        rw [pass_of_ok hlt hscan]
        exact .scans hlt hscan (ih _ (by omega) found.2 rfl)
    · rw [pass_of_size_le (by omega)]
      exact .ends (by omega)

namespace Passes

/-- At the end of the source a pass is over. -/
theorem eq_of_size_le (h : Passes config source position found) (hle : source.size ≤ position) :
    found = ⟨[], none⟩ := by
  cases h with
  | ends => rfl
  | fails hlt => omega
  | scans hlt => omega

/-- Each scan begins where the one before it ended. -/
theorem map_position_eq (h : Passes config source position found) :
    found.visits.map Visit.position = (found.path position).dropLast := by
  induction h with
  | ends => rfl
  | fails => rfl
  | @scans position next token? pass hlt hscan hrest ih =>
    exact congrArg (position :: ·) ih

/-- The positions that a pass comes to increase strictly. -/
theorem pairwise_path (h : Passes config source position found) :
    (found.path position).Pairwise (· < ·) := by
  rw [← List.isChain_iff_pairwise]
  induction h with
  | ends => exact List.isChain_singleton _
  | fails => exact List.isChain_singleton _
  | scans hlt hscan _ ih => exact List.isChain_cons_cons.2 ⟨lt_of_scan hscan hlt, ih⟩

/-- A pass makes at most one scan more than it finds tokens. -/
theorem calls_le (h : Passes config source position found) (hbound : -source.size ≤ position) :
    found.calls ≤ found.tokens.length + 1 := by
  induction h with
  | ends => exact Nat.zero_le _
  | fails => exact Nat.le_refl _
  | @scans position next token? pass hlt hscan hrest ih =>
    obtain ⟨hnext, -, -, hnone⟩ := progress_of_scan hbound hlt hscan
    rw [Pass.calls_after, Pass.tokens_after]
    cases token? with
    | none =>
      -- a scan without a token is the last one
      rw [hrest.eq_of_size_le (Int.le_of_eq (hnone rfl).symm)]
      exact Nat.le_refl _
    | some token =>
      have := ih (by omega)
      simp only [Option.toList_some, List.length_append, List.length_singleton]
      omega

/-- A pass finds at most as many tokens as there are characters ahead that are no blanks. -/
theorem length_tokens_le (h : Passes config source position found)
    (hbound : -source.size ≤ position) :
    found.tokens.length ≤ (source.ahead position).countP (fun c => !isBlank c) := by
  induction h with
  | ends => exact Nat.zero_le _
  | fails => exact Nat.zero_le _
  | @scans position next token? pass hlt hscan hrest ih =>
    obtain ⟨hnext, -, -, hnone⟩ := progress_of_scan hbound hlt hscan
    rw [Pass.tokens_after]
    cases token? with
    | none =>
      rw [hrest.eq_of_size_le (Int.le_of_eq (hnone rfl).symm)]
      exact Nat.zero_le _
    | some token =>
      have := ih (by omega)
      have := countP_ahead_lt_of_scan hbound hscan
      simp only [Option.toList_some, List.length_append, List.length_singleton]
      omega

end Passes

/-- Every scan that begins in its source ends, and so does the reading of every text. A scan
takes at most one step for each position before the end of the source and one more. If it
comes to a result it has moved, but not past the end, and it has found no token exactly if
nothing but blanks was left, and then it is at the end. So the positions of a reading increase
strictly, all scans but the last find tokens, and no token is without a character that is no
blank. -/
theorem scan_and_pass_end (config : Config) :
    (∀ (source : Source) (position : Int), -source.size ≤ position → position < source.size →
      (∃ steps ≤ (source.size - position).toNat,
        (startingAt position).EndsAfter config source steps (scan config source position)) ∧
      ∀ token? next, scan config source position = .ok (token?, next) →
        position < next ∧ next ≤ source.size ∧ (token? = none ↔ source.BlankFrom position) ∧
          (token? = none → next = source.size)) ∧
    ∀ text : Text,
      let found := pass config text.toArray 0
      Passes config text.toArray 0 found ∧
        (∀ tokens, tokenize config text = .ok tokens ↔
          found.failure? = none ∧ found.tokens = tokens) ∧
        (∀ failure, tokenize config text = .error failure ↔ found.failure? = some failure) ∧
        found.visits.map Visit.position = (found.path 0).dropLast ∧
        (found.path 0).Pairwise (· < ·) ∧
        found.calls ≤ found.tokens.length + 1 ∧
        found.tokens.length ≤ text.countP (fun c => !isBlank c) := by
  constructor
  · intro source position hbound hlt
    exact ⟨exists_endsAfter_run config source (startingAt position),
      fun token? next h => progress_of_scan hbound hlt h⟩
  · intro text found
    have hpasses : Passes config text.toArray 0 found := passes_pass config text.toArray 0
    have hbound : -(text.toArray.size : Int) ≤ 0 := by omega
    have htokens := hpasses.length_tokens_le hbound
    rw [Source.ahead_zero] at htokens
    exact ⟨hpasses, fun _ => tokenize_eq_ok_iff, fun _ => tokenize_eq_error_iff,
      hpasses.map_position_eq, hpasses.pairwise_path, hpasses.calls_le hbound, htokens⟩

end LogicLexer
