import LogicLexer.Scanner.Run

/-!
# Draining a text

A text is drained by taking tokens off its front until nothing is left or a scan fails.
Each scan sees only what is left, so the offset of a failure counts from there.

## Main definitions

* `Drain` — what each scan found and left, and the failure that ended the scans
* `drain` — a text drained to its end

## Main results

* `drain_nil`, `drain_of_error`, `drain_of_ok` — a drain from the scan that it begins
  with
-/

namespace LogicLexer

/-- What each scan found and left, and the failure that ended the scans, if any. -/
structure Drain where
  steps : List (Option Token × Text)
  failure? : Option Failure
  deriving DecidableEq, Repr

/-- The scans of what is left of a text, after those already done. -/
def drainFrom (config : Config) (text : Text) (done : Array (Option Token × Text)) : Drain :=
  if h : text = [] then ⟨done.toList, none⟩
  else
    match hscan : scanFront config text with
    | .error failure => ⟨done.toList, some failure⟩
    | .ok (token?, rest) =>
      have := length_lt_of_scanFront hscan h
      drainFrom config rest (done.push (token?, rest))
termination_by text.length

/-- The scans that drain a text. -/
def drain (config : Config) (text : Text) : Drain :=
  drainFrom config text #[]

/-- An empty text is drained. -/
theorem drain_nil (config : Config) : drain config [] = ⟨[], none⟩ := by
  rw [drain, drainFrom, dif_pos rfl]

/-- A failing scan ends the drain. -/
theorem drain_of_error {config : Config} {text : Text} {failure : Failure} (hne : text ≠ [])
    (h : scanFront config text = .error failure) : drain config text = ⟨[], some failure⟩ := by
  rw [drain, drainFrom, dif_neg hne]
  split <;> simp_all

theorem drainFrom_of_ok {config : Config} {text rest : Text} {token? : Option Token}
    (hne : text ≠ []) (h : scanFront config text = .ok (token?, rest))
    (done : Array (Option Token × Text)) :
    drainFrom config text done = drainFrom config rest (done.push (token?, rest)) := by
  rw [drainFrom, dif_neg hne]
  split <;> simp_all

/-- The scans already done come first and change nothing else. -/
theorem drainFrom_eq (config : Config) (text : Text) (done : Array (Option Token × Text)) :
    drainFrom config text done =
      ⟨done.toList ++ (drain config text).steps, (drain config text).failure?⟩ := by
  unfold drain
  induction hn : text.length using Nat.strongRecOn generalizing text done with
  | ind n ih =>
    by_cases hne : text = []
    · have hstop (seen : Array (Option Token × Text)) :
          drainFrom config text seen = ⟨seen.toList, none⟩ := by
        rw [drainFrom, dif_pos hne]
      simp [hstop]
    · cases hscan : scanFront config text with
      | error failure =>
        have hstop (seen : Array (Option Token × Text)) :
            drainFrom config text seen = ⟨seen.toList, some failure⟩ := by
          rw [drainFrom, dif_neg hne]
          split <;> simp_all
        simp [hstop]
      | ok found =>
        have hless : found.2.length < n := hn ▸ length_lt_of_scanFront hscan hne
        rw [drainFrom_of_ok hne hscan, drainFrom_of_ok hne hscan,
          ih _ hless found.2 (done.push _) rfl, ih _ hless found.2 (#[].push _) rfl]
        simp

/-- After a scan the drain goes on with what is left. -/
theorem drain_of_ok {config : Config} {text rest : Text} {token? : Option Token}
    (hne : text ≠ []) (h : scanFront config text = .ok (token?, rest)) :
    drain config text =
      ⟨(token?, rest) :: (drain config rest).steps, (drain config rest).failure?⟩ := by
  rw [drain, drainFrom_of_ok hne h, drainFrom_eq]
  simp

end LogicLexer
