import LogicLexer.CharClass

/-!
# Positional value

The value of a run of decimal digits, read digit by digit. The digits may come from
several scripts; each counts for what it is worth.

## Main definitions

* `Numeral.digitValue` — the worth of a digit, zero for any other character
* `Numeral.placeValue` — the worth of a place
* `Numeral.positional` — the value of a run of digits

## Main results

* `Numeral.positional_append` — the value of a run from the values of its two parts
-/

namespace LogicLexer.Numeral

/-- What a character is worth as a digit, zero when it is none. -/
def digitValue (c : Char) : Nat :=
  (digitValue? c).getD 0

/-- What a digit counts for with `n` digits after it: a one followed by `n` zeros. -/
def placeValue (n : Nat) : Nat :=
  Nat.pow 10 n

/-- The value of a run of digits when `value` has been read before it. -/
def positionalFrom (value : Nat) (digits : Text) : Nat :=
  digits.foldl (fun value c => value * 10 + digitValue c) value

/-- The value of a run of digits, most significant first. -/
def positional (digits : Text) : Nat :=
  positionalFrom 0 digits

theorem digitValue_lt (c : Char) : digitValue c < 10 := by
  unfold digitValue
  cases h : digitValue? c with
  | none => simp
  | some d => exact Unicode.digitValueIn?_lt h

theorem placeValue_zero : placeValue 0 = 1 := rfl

theorem placeValue_succ (n : Nat) : placeValue (n + 1) = placeValue n * 10 := rfl

theorem placeValue_add (m n : Nat) : placeValue (m + n) = placeValue m * placeValue n :=
  Nat.pow_add 10 m n

theorem placeValue_le {m n : Nat} (h : m ≤ n) : placeValue m ≤ placeValue n :=
  Nat.pow_le_pow_right (by decide) h

theorem placeValue_lt_iff {m n : Nat} : placeValue m < placeValue n ↔ m < n :=
  Nat.pow_lt_pow_iff_right (by decide)

/-- What was read before a run moves up by one place for each digit of the run. -/
theorem positionalFrom_eq (value : Nat) (digits : Text) :
    positionalFrom value digits =
      value * placeValue digits.length + positional digits := by
  induction digits generalizing value with
  | nil => simp [positionalFrom, positional, placeValue_zero]
  | cons c rest ih =>
    have step (v : Nat) : positionalFrom v (c :: rest) =
        positionalFrom (v * 10 + digitValue c) rest := rfl
    rw [positional, step, step, ih, ih (0 * 10 + digitValue c), Nat.zero_mul, Nat.zero_add,
      List.length_cons, placeValue_succ, Nat.add_mul, Nat.mul_assoc, Nat.mul_comm 10,
      Nat.add_assoc]

/-- The first part of a run counts for as many places as the second part is long. -/
theorem positional_append (left right : Text) :
    positional (left ++ right) =
      positional left * placeValue right.length + positional right := by
  rw [← positionalFrom_eq, positional, positionalFrom, List.foldl_append]
  rfl

end LogicLexer.Numeral
