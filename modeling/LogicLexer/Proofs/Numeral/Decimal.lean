import Mathlib.Data.List.Basic
import LogicLexer.Proofs.Numeral.Printing

/-!
# Ordinary decimal numerals

Writing and reading are inverse up to the form of the digits. What is written is the ordinary
decimal numeral: ASCII digits without leading zeros. A digit run may be in any scripts and
have any number of zeros in front; written again, the number that it is read as has the same
digits, in ASCII and without these zeros.

## Main definitions

* `Numeral.IsDecimal` — the form of an ordinary decimal numeral
* `Numeral.reduced` — a digit run in this form

## Main results

* `Numeral.isDecimal_toDigits` — decimal digits have this form
* `Numeral.toDigits_positional` — the decimal digits of what a digit run is worth
* `Numeral.write_toDigits_and_reduced` — numbers written and read back, and digit runs read
  and written again
-/

namespace LogicLexer.Numeral

/-- An ordinary decimal numeral: ASCII digits, of which the first is a zero only if it stands
alone. -/
structure IsDecimal (text : Text) : Prop where
  nonempty : text ≠ []
  ascii : ∀ c ∈ text, c.isDigit = true
  leading : text.head? = some '0' → text = ['0']

/-- A digit run in ASCII and without leading zeros, or a single zero if nothing else is
left. -/
def reduced (digits : Text) : Text :=
  match (digits.map asciiDigit).dropWhile (· == '0') with
  | [] => ['0']
  | c :: rest => c :: rest

/-! ### Leading zeros -/

theorem digitChar_eq_zero_iff : ∀ d < 10, Nat.digitChar d = '0' ↔ d = 0 := by
  decide

/-- The decimal digits of a positive number do not begin with a zero. -/
theorem head?_toDigits_ne {n : Nat} (hpos : 0 < n) : (Nat.toDigits 10 n).head? ≠ some '0' := by
  induction n using Nat.strongRecOn with
  | ind n ih =>
    by_cases hlt : n < 10
    · rw [Nat.toDigits_of_lt_base hlt, List.head?_cons, ne_eq, Option.some_inj,
        digitChar_eq_zero_iff n hlt]
      omega
    · -- the first digit is that of the quotient
      rw [Nat.toDigits_of_base_le (by decide) (by omega),
        List.head?_append_of_ne_nil _ Nat.toDigits_ne_nil]
      exact ih (n / 10) (by omega) (by omega)

/-- The decimal digits of a number are an ordinary decimal numeral. -/
theorem isDecimal_toDigits (n : Nat) : IsDecimal (Nat.toDigits 10 n) where
  nonempty := Nat.toDigits_ne_nil
  ascii _ hc := ascii_of_mem_toDigits hc
  leading hzero := by
    obtain rfl : n = 0 := Nat.eq_zero_of_not_pos fun hpos => head?_toDigits_ne hpos hzero
    rfl

/-! ### Digit runs -/

theorem asciiDigit_eq_zero_iff {c : Char} : asciiDigit c = '0' ↔ digitValue c = 0 :=
  digitChar_eq_zero_iff _ (digitValue_lt c)

/-- A leading zero of any script is left out. -/
theorem reduced_cons_of_zero {c : Char} (h : digitValue c = 0) (rest : Text) :
    reduced (c :: rest) = reduced rest := by
  have hdigit : asciiDigit c = '0' := asciiDigit_eq_zero_iff.2 h
  rw [reduced, List.map_cons, List.dropWhile_cons_of_pos (by simpa using hdigit), reduced]

/-- From the first digit on that is no zero, all digits are kept. -/
theorem reduced_cons_of_ne_zero {c : Char} (h : digitValue c ≠ 0) (rest : Text) :
    reduced (c :: rest) = asciiDigit c :: rest.map asciiDigit := by
  have hdigit : asciiDigit c ≠ '0' := mt asciiDigit_eq_zero_iff.1 h
  rw [reduced, List.map_cons, List.dropWhile_cons_of_neg (by simpa using hdigit)]

/-- The decimal digits of what a digit run is worth are the run itself, reduced. -/
theorem toDigits_positional (digits : Text) :
    Nat.toDigits 10 (positional digits) = reduced digits := by
  induction digits with
  | nil => rfl
  | cons c rest ih =>
    have hvalue : positional (c :: rest) = positionalFrom (digitValue c) rest := by
      rw [positional, positionalFrom_cons, Nat.zero_mul, Nat.zero_add]
    by_cases hzero : digitValue c = 0
    · rw [reduced_cons_of_zero hzero, ← ih, hvalue, hzero]
      rfl
    · rw [reduced_cons_of_ne_zero hzero, hvalue,
        ← toDigits_append_map_asciiDigit (Nat.pos_of_ne_zero hzero),
        Nat.toDigits_of_lt_base (digitValue_lt c)]
      rfl

/-- A number of any size is written as its decimal digits, an ordinary numeral that is read as
the number again. A digit run of any scripts is read as a number that is written as the run
in ASCII and without leading zeros. -/
theorem write_toDigits_and_reduced :
    (∀ n : Nat, write n = .ok (Nat.toDigits 10 n) ∧ IsDecimal (Nat.toDigits 10 n) ∧
      read (Nat.toDigits 10 n) = .ok (n : Int)) ∧
    ∀ digits : Text, (∀ c ∈ digits, isDigit c = true) →
      ∃ n : Nat, read digits = .ok (n : Int) ∧ write n = .ok (reduced digits) := by
  constructor
  · intro n
    have hdecimal := isDecimal_toDigits n
    refine ⟨write_natCast n, hdecimal, ?_⟩
    rw [read_eq fun c hc => isDigit_of_mem_toDigits hc, positional_toDigits]
  · intro digits hdigits
    refine ⟨positional digits, read_eq hdigits, ?_⟩
    rw [write_natCast, toDigits_positional]

/-- Zeros of two scripts before a digit of a third, and a zero behind it that stays. -/
theorem write_toDigits_and_reduced_three_scripts :
    let digits : Text := ['0', '\u0660', '\u0967', '0']
    (∀ c ∈ digits, isDigit c = true) ∧
      ∃ n : Nat, read digits = .ok (n : Int) ∧ write n = .ok ['1', '0'] := by
  intro digits
  have hdigits : ∀ c ∈ digits, isDigit c = true := List.all_eq_true.1 (by decide)
  have hreduced : reduced digits = ['1', '0'] := by decide
  exact ⟨hdigits, hreduced ▸ write_toDigits_and_reduced.2 digits hdigits⟩

end LogicLexer.Numeral
