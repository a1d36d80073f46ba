import Mathlib.Data.List.Forall2

/-!
# Calls in a row

A call for each item of a list succeeds as a whole if every one of them does, and then
the results stand in the order of the items.

## Main results

* `mapM_eq_ok_iff` — the calls succeed exactly item by item
* `mapM_eq_ok_map` — what the calls give when the result of each is known
-/

namespace LogicLexer

variable {α β ε : Type} {f : α → Except ε β}

/-- Calls in a row succeed exactly when each of them does. -/
theorem mapM_eq_ok_iff {xs : List α} {ys : List β} :
    xs.mapM f = .ok ys ↔ List.Forall₂ (fun x y => f x = .ok y) xs ys := by
  induction xs generalizing ys with
  | nil =>
    rw [List.mapM_nil, List.forall₂_nil_left_iff]
    exact ⟨fun h => (Except.ok.inj h).symm, fun h => congrArg Except.ok h.symm⟩
  | cons x xs ih =>
    rw [List.mapM_cons, List.forall₂_cons_left_iff]
    simp only [← ih]
    cases f x with
    | error failure => simp [bind, Except.bind]
    | ok y =>
      cases xs.mapM f with
      | error failure => simp [bind, Except.bind]
      | ok rest => simp [bind, Except.bind, pure, Except.pure, eq_comm]

/-- What calls in a row give when the result of each is known. -/
theorem mapM_eq_ok_map {g : α → β} {xs : List α} (h : ∀ x ∈ xs, f x = .ok (g x)) :
    xs.mapM f = .ok (xs.map g) :=
  mapM_eq_ok_iff.2 (List.forall₂_map_right_iff.2 (List.forall₂_same.2 h))

end LogicLexer
