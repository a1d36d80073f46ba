import LogicLexer.Numeral.Positional

/-!
# Conversions between numbers and numerals

A text is converted to a number if it is a signed numeral in a lenient form: blanks may
stand around it, one sign before its digits, and single underscores between them. A
number is converted to its decimal numeral. Numerals of more digits than a limit are
refused in both directions, and the sign does not count as a digit.

## Main definitions

* `Numeral.digitLimit` — the most digits of a numeral that is converted
* `Numeral.Unconvertible` — why a conversion fails
* `Numeral.ofText` — the number of a text
* `Numeral.decimal` — the decimal numeral of a number, of any length
* `Numeral.toText` — the same within the limit
* `Numeral.IsWithinLimit` — the numbers that have a text

## Main results

* `Numeral.toText_of_isWithinLimit`, `Numeral.toText_of_not_isWithinLimit` — what a number is
  converted to
-/

namespace LogicLexer.Numeral

/-- The most digits of a numeral that is converted to a number or made from one. -/
def digitLimit : Nat := 4300

/-- Why a conversion fails. How many digits are too many is known of a text, but not of a
number, whose digits are not written out. -/
inductive Unconvertible
  | notANumeral (text : Text)
  | tooManyDigits (digits? : Option Nat)
  deriving DecidableEq, Repr

/-! ### Numbers of texts -/

/-- A blank that may stand around a numeral. The four information separators are blanks
between tokens but may not stand here. -/
def isPadding (c : Char) : Bool :=
  isBlank c && !(0x1C ≤ c.toNat && c.toNat ≤ 0x1F)

/-- The value of what follows a digit, when the digits up to it are worth `value`: more
digits, each alone or after one underscore. -/
def grouped? (value : Nat) : Text → Option Nat
  | [] => some value
  | '_' :: c :: rest => (digitValue? c).bind fun d => grouped? (value * 10 + d) rest
  | c :: rest => (digitValue? c).bind fun d => grouped? (value * 10 + d) rest

/-- The value of a digit followed by more digits, with single underscores between them. -/
def unsigned? : Text → Option Nat
  | [] => none
  | c :: rest => (digitValue? c).bind fun d => grouped? d rest

/-- The value of a signed numeral. -/
def signed? : Text → Option Int
  | '-' :: rest => (unsigned? rest).map fun n => -(n : Int)
  | '+' :: rest => (unsigned? rest).map Int.ofNat
  | text => (unsigned? text).map Int.ofNat

/-- The text without the padding at its ends. -/
def unpadded (text : Text) : Text :=
  ((text.dropWhile isPadding).reverse.dropWhile isPadding).reverse

/-- The number of a text, if the text is a numeral within the limit. Zeros before the
other digits count as well. -/
def ofText (text : Text) : Except Unconvertible Int :=
  match signed? (unpadded text) with
  | none => .error (.notANumeral text)
  | some n =>
    -- the sign, the underscores and the padding are not counted
    if digitLimit < text.countP isDigit then
      .error (.tooManyDigits (some (text.countP isDigit)))
    else .ok n

/-! ### Texts of numbers -/

/-- The decimal numeral of a number, with a hyphen before it when it is negative. -/
def decimal (n : Int) : Text :=
  if n < 0 then '-' :: Nat.toDigits 10 n.natAbs else Nat.toDigits 10 n.natAbs

/-- The decimal numeral of a number, if it is within the limit. -/
def toText (n : Int) : Except Unconvertible Text :=
  if digitLimit < (Nat.toDigits 10 n.natAbs).length then .error (.tooManyDigits none)
  else .ok (decimal n)

/-- The number has no more digits than the limit. -/
def IsWithinLimit (n : Int) : Prop :=
  n.natAbs < placeValue digitLimit

theorem decimal_natCast (n : Nat) : decimal n = Nat.toDigits 10 n := by
  rw [decimal, if_neg (by omega), Int.natAbs_natCast]

/-- A number has at most `k` digits exactly if it is below the place after `k` digits. -/
theorem length_toDigits_le_iff {n k : Nat} (hk : 0 < k) :
    (Nat.toDigits 10 n).length ≤ k ↔ n < placeValue k :=
  Nat.length_toDigits_le_iff (by decide) hk

/-- A number of no more digits than the limit is converted to its numeral. -/
theorem toText_of_isWithinLimit {n : Int} (h : IsWithinLimit n) : toText n = .ok (decimal n) :=
  if_neg (Nat.not_lt.2 ((length_toDigits_le_iff (by decide)).2 h))

/-- A number of more digits than the limit is refused. -/
theorem toText_of_not_isWithinLimit {n : Int} (h : ¬ IsWithinLimit n) :
    toText n = .error (.tooManyDigits none) :=
  if_pos (Nat.not_le.1 (mt (length_toDigits_le_iff (by decide)).1 h))

/-- The first power of ten beyond the limit is the one with as many zeros. -/
theorem isWithinLimit_placeValue_iff {n : Nat} :
    IsWithinLimit (placeValue n) ↔ n < digitLimit := by
  rw [IsWithinLimit, Int.natAbs_natCast, placeValue_lt_iff]

/-- What is closer to zero has no more digits. -/
theorem IsWithinLimit.of_natAbs_le {m n : Int} (h : IsWithinLimit n) (hle : m.natAbs ≤ n.natAbs) :
    IsWithinLimit m :=
  Nat.lt_of_le_of_lt hle h

end LogicLexer.Numeral
