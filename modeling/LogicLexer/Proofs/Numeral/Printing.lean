import LogicLexer.Numeral.Printing
import LogicLexer.Proofs.Numeral.Reading

/-!
# Written numbers read back

A natural number is written in blocks, and the number of each block is small enough to be
converted. Every block but the leading one is padded to its full length, so each digit keeps
its place, and the blocks together are the decimal digits of the number. These consist of
digits and are worth the number.

## Main definitions

* `Numeral.asciiDigit` — the ASCII digit of the same value

## Main results

* `Numeral.toDigits_append_map_asciiDigit` — digits behind a positive number are digits of
  the number that they make with it
* `Numeral.isDigit_of_mem_toDigits`, `Numeral.positional_toDigits` — the decimal digits of a
  number are digits that are worth the number
* `Numeral.write_natCast` — a natural number is written as its decimal digits
* `Numeral.exists_write_iff` — which numbers can be written
-/

namespace LogicLexer.Numeral

/-- The ASCII digit of the same value. -/
def asciiDigit (c : Char) : Char :=
  Nat.digitChar (digitValue c)

/-! ### Decimal digits -/

/-- The ASCII digit of a number below ten is a digit of that value. -/
theorem digitValue?_digitChar : ∀ d < 10, digitValue? (Nat.digitChar d) = some d := by
  decide

theorem positional_concat (digits : Text) (c : Char) :
    positional (digits ++ [c]) = positional digits * 10 + digitValue c := by
  rw [positional_append]
  simp [positional, positionalFrom, placeValue]

/-- Decimal digits are worth the number that they were taken from. -/
theorem positional_toDigits (n : Nat) : positional (Nat.toDigits 10 n) = n := by
  induction n using Nat.strongRecOn with
  | ind n ih =>
    by_cases hlt : n < 10
    · rw [Nat.toDigits_of_lt_base hlt]
      simp [positional, positionalFrom, digitValue, digitValue?_digitChar n hlt]
    · have hmod : n % 10 < 10 := Nat.mod_lt n (by decide)
      -- the digits before the last are those of the quotient
      rw [Nat.toDigits_of_base_le (by decide) (by omega), positional_concat,
        ih (n / 10) (by omega), digitValue, digitValue?_digitChar _ hmod, Option.getD_some]
      omega

/-- An ASCII digit is the digit of a number below ten. -/
theorem exists_eq_digitChar_of_ascii {c : Char} (h : c.isDigit = true) :
    ∃ d < 10, c = Nat.digitChar d := by
  have hrange : 48 ≤ c.toNat ∧ c.toNat ≤ 57 := Char.isDigit_iff_toNat.1 h
  refine ⟨c.toNat - 48, by omega, ?_⟩
  rw [← Char.toNat_inj, Nat.toNat_digitChar_of_lt_ten (by omega)]
  omega

/-- An ASCII digit is a digit. -/
theorem isDigit_of_ascii {c : Char} (h : c.isDigit = true) : isDigit c = true := by
  obtain ⟨d, hd, rfl⟩ := exists_eq_digitChar_of_ascii h
  rw [isDigit, digitValue?_digitChar d hd]
  rfl

/-- An ASCII digit is the ASCII digit of its own value. -/
theorem asciiDigit_eq_self {c : Char} (h : c.isDigit = true) : asciiDigit c = c := by
  obtain ⟨d, hd, rfl⟩ := exists_eq_digitChar_of_ascii h
  rw [asciiDigit, digitValue, digitValue?_digitChar d hd]
  rfl

/-- Digits behind a positive number, written in ASCII, are the decimal digits of the number
that they make with it. -/
theorem toDigits_append_map_asciiDigit {value : Nat} (hpos : 0 < value) (digits : Text) :
    Nat.toDigits 10 value ++ digits.map asciiDigit =
      Nat.toDigits 10 (positionalFrom value digits) := by
  induction digits generalizing value with
  | nil => exact List.append_nil _
  | cons c rest ih =>
    have hdigit := Nat.toDigits_append_toDigits (by decide) hpos (digitValue_lt c)
    rw [Nat.toDigits_of_lt_base (digitValue_lt c), Nat.mul_comm] at hdigit
    rw [positionalFrom_cons, ← ih (by omega), ← hdigit, List.map_cons, List.append_assoc]
    rfl

/-! ### Numerals -/

theorem ascii_of_mem_toDigits {n : Nat} {c : Char} (h : c ∈ Nat.toDigits 10 n) :
    c.isDigit = true :=
  Nat.isDigit_of_mem_toDigits (by decide) (by decide) h

/-- The decimal digits of a number are digits. -/
theorem isDigit_of_mem_toDigits {n : Nat} {c : Char} (h : c ∈ Nat.toDigits 10 n) :
    isDigit c = true :=
  isDigit_of_ascii (ascii_of_mem_toDigits h)

theorem map_asciiDigit_of_ascii {text : Text} (h : ∀ c ∈ text, c.isDigit = true) :
    text.map asciiDigit = text :=
  (List.map_congr_left fun c hc => asciiDigit_eq_self (h c hc)).trans (List.map_id _)

/-- Zeros before a digit run do not count. -/
theorem positional_replicate_zero_append (n : Nat) (digits : Text) :
    positional (List.replicate n '0' ++ digits) = positional digits := by
  have hzero : positional (List.replicate n '0') = 0 := by
    induction n with
    | zero => rfl
    | succ n ih =>
      rw [List.replicate_succ', positional_concat, ih]
      decide
  rw [positional_append, hzero, Nat.zero_mul, Nat.zero_add]

/-- A padded block is in ASCII like the digits that it was padded from. -/
theorem map_asciiDigit_zeroPadded (n : Nat) :
    (zeroPadded (Nat.toDigits 10 n)).map asciiDigit = zeroPadded (Nat.toDigits 10 n) := by
  refine map_asciiDigit_of_ascii fun c hc => ?_
  rcases List.mem_append.1 hc with hpad | hdigit
  · rw [List.eq_of_mem_replicate hpad]
    rfl
  · exact ascii_of_mem_toDigits hdigit

theorem positional_zeroPadded (n : Nat) : positional (zeroPadded (Nat.toDigits 10 n)) = n := by
  rw [zeroPadded, List.leftpad, positional_replicate_zero_append, positional_toDigits]

/-- A number below the base of the blocks fills exactly one block. -/
theorem length_zeroPadded {n : Nat} (h : n < blockBase) :
    (zeroPadded (Nat.toDigits 10 n)).length = blockLength := by
  have hfits : (Nat.toDigits 10 n).length ≤ blockLength :=
    (length_toDigits_le_iff (by decide)).2 h
  rw [zeroPadded, List.leftpad, List.length_append, List.length_replicate]
  omega

/-- The digits of a quotient by the base of the blocks and the padded remainder are the
digits of the number. -/
theorem toDigits_append_zeroPadded {n : Nat} (h : blockBase ≤ n) :
    Nat.toDigits 10 (n / blockBase) ++ zeroPadded (Nat.toDigits 10 (n % blockBase)) =
      Nat.toDigits 10 n := by
  have hquotient : 0 < n / blockBase := Nat.div_pos h blockBase_pos
  have hlength := length_zeroPadded (Nat.mod_lt n blockBase_pos)
  -- the last block is padded to its full length, so the quotient counts for `blockBase`
  have hvalue : positionalFrom (n / blockBase) (zeroPadded (Nat.toDigits 10 (n % blockBase))) =
      n := by
    rw [positionalFrom_eq, positional_zeroPadded, hlength]
    exact Nat.div_add_mod' n blockBase
  rw [← map_asciiDigit_zeroPadded, toDigits_append_map_asciiDigit hquotient, hvalue]

/-! ### Written numbers -/

/-- No number of one block has too many digits to be converted. -/
theorem toText_of_lt_blockBase {n : Nat} (h : n < blockBase) :
    toText n = .ok (Nat.toDigits 10 n) := by
  have hlimit : IsWithinLimit n :=
    Nat.lt_of_lt_of_le h (placeValue_le blockLength_le_digitLimit)
  rw [toText_of_isWithinLimit hlimit, decimal_natCast]

/-- A natural number of any size is written as its decimal digits, since only the numbers of
its blocks are converted. -/
theorem write_natCast (n : Nat) : write n = .ok (Nat.toDigits 10 n) := by
  induction n using Nat.strongRecOn with
  | ind n ih =>
    rw [write]
    by_cases hlt : n < blockBase
    · rw [if_pos (Int.ofNat_lt.2 hlt), toText_of_lt_blockBase hlt]
    · have hge : blockBase ≤ n := Nat.not_lt.1 hlt
      have hpos : 0 < n := Nat.lt_of_lt_of_le blockBase_pos hge
      have hless : n / blockBase < n := Nat.div_lt_self hpos one_lt_blockBase
      -- the quotient is written by induction, and the remainder is a number of one block
      rw [if_neg (mt Int.ofNat_lt.1 hlt), ← Int.natCast_ediv, ← Int.natCast_emod, ih _ hless,
        toText_of_lt_blockBase (Nat.mod_lt n blockBase_pos)]
      exact congrArg Except.ok (toDigits_append_zeroPadded hge)

/-- A negative number is converted as a whole. -/
theorem write_of_neg {n : Int} (h : n < 0) : write n = toText n := by
  rw [write, if_pos (Int.lt_of_lt_of_le h (Int.natCast_nonneg _))]

/-- A number can be written unless it is negative and has too many digits. -/
theorem exists_write_iff (n : Int) :
    (∃ text, write n = .ok text) ↔ 0 ≤ n ∨ IsWithinLimit n := by
  by_cases hneg : n < 0
  · rw [write_of_neg hneg]
    by_cases hlimit : IsWithinLimit n
    · rw [toText_of_isWithinLimit hlimit]
      exact iff_of_true ⟨_, rfl⟩ (.inr hlimit)
    · rw [toText_of_not_isWithinLimit hlimit]
      exact iff_of_false nofun (not_or.2 ⟨Int.not_le.2 hneg, hlimit⟩)
  · obtain ⟨m, rfl⟩ := Int.eq_ofNat_of_zero_le (Int.not_lt.1 hneg)
    exact iff_of_true ⟨_, write_natCast m⟩ (.inl (Int.not_lt.1 hneg))

end LogicLexer.Numeral
