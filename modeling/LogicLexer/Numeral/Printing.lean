import LogicLexer.Numeral.Reading

/-!
# Writing numbers

A number is written in ASCII decimal digits without leading zeros. A number that is not
negative is written a block of digits at a time, so that only numbers of one block are
converted: the leading block as it is, each later one padded with zeros to the full
length. A negative number is converted as a whole.

## Main definitions

* `Numeral.write` — the numeral of a number, or why it cannot be written
-/

namespace LogicLexer.Numeral

/-- The first number that no longer fits into one block. -/
def blockBase : Nat := placeValue blockLength

theorem one_lt_blockBase : 1 < blockBase :=
  (placeValue_lt_iff (m := 0)).2 (by decide)

theorem blockBase_pos : 0 < blockBase :=
  Nat.lt_trans Nat.zero_lt_one one_lt_blockBase

/-- A digit run with zeros before it up to a full block. -/
def zeroPadded (digits : Text) : Text :=
  digits.leftpad blockLength '0'

/-- The numeral of a number. Only the numbers of its blocks are converted, or a negative
number as a whole. -/
def write (n : Int) : Except Unconvertible Text :=
  if n < blockBase then toText n
  else do
    let head ← write (n / blockBase)
    let last ← toText (n % blockBase)
    return head ++ zeroPadded last
termination_by n.toNat
decreasing_by
  have hbase : (1 : Int) < blockBase := Int.ofNat_lt.2 one_lt_blockBase
  have hless : n / blockBase < n := Int.ediv_lt_self_of_pos_of_ne_one (by omega) (by omega)
  omega

end LogicLexer.Numeral
