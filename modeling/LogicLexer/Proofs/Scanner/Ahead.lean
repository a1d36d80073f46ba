import LogicLexer.Scanner.Basic

/-!
# What lies ahead of a position

A scanner that reads from a position on sees a text: what is left of the source, and from
a negative position the end of the source and then the whole of it. Moving on by one
character drops the first of that text, also where the position passes zero.

## Main definitions

* `Source.ahead` — the text ahead of a position

## Main results

* `Source.peek_eq` — the character ahead of a position is the first of the text ahead
* `Source.ahead_add` — moving on drops characters from the text ahead
* `Source.length_ahead`, `Source.index?_add` — how much text lies ahead, and which characters
* `Source.slice_eq_take_ahead` — a slice from a position is taken from the text ahead
-/

namespace LogicLexer.Source

variable {source : Source} {position : Int}

/-- The text that is read from a position on. From a negative position the end of the
source comes first and then the source from its beginning. -/
def ahead (source : Source) (position : Int) : Text :=
  if position < 0 then source.suffix position ++ source.toList
  else source.toList.drop position.toNat

theorem ahead_natCast (source : Source) (n : Nat) :
    source.ahead (n : Int) = source.toList.drop n := by
  rw [ahead, if_neg (by omega), Int.toNat_natCast]

theorem ahead_zero (source : Source) : source.ahead 0 = source.toList :=
  source.ahead_natCast 0

theorem bound_natCast_eq_min (source : Source) (n : Nat) :
    source.bound (n : Int) = min n source.size := by
  rw [bound, if_neg (by omega), Int.toNat_natCast]

/-- From a position that is not negative a slice is the first part of the text ahead. -/
theorem slice_eq_take_ahead (source : Source) (n length : Nat) :
    source.slice n (n + length) = (source.ahead n).take length := by
  rw [slice_eq, ← Int.natCast_add, bound_natCast_eq_min, bound_natCast_eq_min, List.drop_take,
    ahead_natCast]
  rcases Nat.le_total n source.size with hle | hle
  · rw [Nat.min_eq_left hle, List.take_eq_take_iff, List.length_drop, Array.length_toList]
    omega
  · -- past the end the bounds are brought back to it
    rw [Nat.min_eq_right hle, List.drop_eq_nil_of_le (Nat.le_of_eq Array.length_toList),
      List.drop_eq_nil_of_le (by rwa [Array.length_toList]), List.take_nil, List.take_nil]

theorem suffix_of_neg (h : position < 0) :
    source.suffix position = source.toList.drop (position + source.size).toNat := by
  rw [suffix, slice_eq, bound_natCast source (Nat.le_refl _), bound, if_pos h]
  simp [List.take_of_length_le]

/-- From a position in the source the suffix is what lies ahead. -/
theorem suffix_eq_ahead (source : Source) (n : Nat) : source.suffix n = source.ahead n := by
  rw [ahead_natCast]
  by_cases hle : n ≤ source.size
  · exact suffix_natCast source hle
  · -- past the end the bound is brought back to it
    have hbound : source.bound n = source.size := by
      rw [bound_natCast_eq_min]
      omega
    rw [suffix, slice_eq, hbound, bound_natCast source (Nat.le_refl _), List.drop_take,
      Nat.sub_self, List.take_zero, List.drop_eq_nil_of_le (by rw [Array.length_toList]; omega)]

/-- At and after the end of the source nothing lies ahead. -/
theorem ahead_eq_nil (h : source.size ≤ position) : source.ahead position = [] := by
  rw [ahead, if_neg (by omega), List.drop_eq_nil_of_le]
  simp only [Array.length_toList]
  omega

/-- The character at a position is the first of the text ahead. -/
theorem index?_eq_head?_ahead (h : -source.size ≤ position) :
    source.index? position = (source.ahead position).head? := by
  by_cases hneg : position < 0
  · -- the position counts from the end, and some of the end is left
    have hlt : (position + source.size).toNat < source.toList.length := by
      simp only [Array.length_toList]
      omega
    rw [index?, if_neg (by omega), if_pos (by omega), ahead, if_pos hneg, suffix_of_neg hneg,
      List.head?_append, List.head?_drop, List.getElem?_eq_getElem hlt, Option.some_or,
      ← Array.getElem?_toList, List.getElem?_eq_getElem hlt]
  · rw [index?_of_nonneg source (by omega), ahead, if_neg hneg, List.head?_drop,
      Array.getElem?_toList]

/-- The character ahead of a position is the first of the text ahead. -/
theorem peek_eq (h : -source.size ≤ position) :
    source.peek position = .ok (source.ahead position).head? := by
  rw [peek, ← index?_eq_head?_ahead h]
  split
  · rw [(index?_eq_none_iff source position).2 (.inl ‹_›)]
  · cases hindex : source.index? position with
    | none =>
      have := (index?_eq_none_iff source position).1 hindex
      omega
    | some c => rw [(charAt_eq_ok_iff source position c).2 hindex]

/-- Moving on by one drops the first character of the text ahead. -/
theorem ahead_succ (h : -source.size ≤ position) :
    source.ahead (position + 1) = (source.ahead position).tail := by
  by_cases hneg : position < 0
  · have hsuffix : source.suffix position ≠ [] := by
      rw [suffix_of_neg hneg, ne_eq, List.drop_eq_nil_iff, Array.length_toList]
      omega
    rw [ahead, ahead, if_pos hneg, List.tail_append_of_ne_nil hsuffix, suffix_of_neg hneg,
      List.tail_drop]
    by_cases hnext : position + 1 < 0
    · rw [if_pos hnext, suffix_of_neg hnext]
      congr 2
      omega
    · -- the last character is read, and the source follows from its beginning
      have hlast : source.toList.drop ((position + source.size).toNat + 1) = [] :=
        List.drop_eq_nil_of_le (by rw [Array.length_toList]; omega)
      obtain rfl : position = -1 := by omega
      rw [if_neg hnext, hlast]
      rfl
  · rw [ahead, ahead, if_neg hneg, if_neg (by omega), List.tail_drop]
    congr 1
    omega

/-- Moving on drops characters from the text ahead. -/
theorem ahead_add (h : -source.size ≤ position) (n : Nat) :
    source.ahead (position + n) = (source.ahead position).drop n := by
  induction n with
  | zero => simp
  | succ n ih =>
    have hnext : source.ahead (position + n + 1) = (source.ahead (position + n)).tail :=
      ahead_succ (by omega)
    rw [Int.natCast_add, Int.natCast_one, ← Int.add_assoc, hnext, ih, List.tail_drop]

/-- Moving on over the first part of the text ahead leaves the second. -/
theorem ahead_add_length (h : -source.size ≤ position) {first rest : Text}
    (hahead : source.ahead position = first ++ rest) :
    source.ahead (position + first.length) = rest := by
  rw [ahead_add h, hahead, List.drop_left]

/-- As much text lies ahead as there are positions before the end of the source. -/
theorem length_ahead (hbound : -source.size ≤ position) (hle : position ≤ source.size) :
    ((source.ahead position).length : Int) = source.size - position := by
  rw [ahead]
  split
  · rw [suffix_of_neg ‹_›, List.length_append, List.length_drop, Array.length_toList]
    omega
  · rw [List.length_drop, Array.length_toList]
    omega

/-- The characters of the text ahead are those at the positions from there on. -/
theorem index?_add (hbound : -source.size ≤ position) (n : Nat) :
    source.index? (position + n) = (source.ahead position)[n]? := by
  rw [index?_eq_head?_ahead (by omega), ahead_add hbound, List.head?_drop]

end LogicLexer.Source
