/-!
# Texts and signed positions

A text is the list of its characters, and a source is a text laid out for access by
position. The characters are the Unicode scalar values. Surrogate code points are not
among them, so a string with a surrogate in it is no text and nothing is said about it
here. A position is an integer: one below zero counts from the end of the source, and the
two ends of a slice are brought back into the source when they lie outside it.

## Main definitions

* `Source.index?` — the character at a position that lies in the source
* `Misplaced`, `Source.charAt` — the same, with the reason why there is none
* `Source.bound` — a signed position as a distance from the beginning
* `Source.slice`, `Source.suffix` — the text between two positions, and from one to the
  end

## Main results

* `Source.index?_eq_none_iff` — which positions lie outside the source
* `Source.charAt_eq_ok_iff` — only a position outside the source holds no character
* `Source.slice_eq` — a slice is what is left after taking and dropping characters
-/

namespace LogicLexer

/-- A sequence of characters, none of them a surrogate. -/
abbrev Text := List Char

/-- A text laid out for access by position. -/
abbrev Source := Array Char

/-- Why a position holds no character: it lies outside the source, or it is so far from
zero that no source could reach it. -/
inductive Misplaced
  | outOfRange
  | notAnIndex
  deriving DecidableEq, Repr

/-- The first position that is too large to be an index. Negative indices reach as far. -/
def indexBound : Int := 0x8000000000000000

/-- Why a position outside the source holds no character. -/
def Misplaced.of (position : Int) : Misplaced :=
  if -indexBound ≤ position ∧ position < indexBound then .outOfRange else .notAnIndex

namespace Source

/-- The character at a position, counted from the end when it is negative. -/
def index? (source : Source) (position : Int) : Option Char :=
  if 0 ≤ position then source[position.toNat]?
  else if 0 ≤ position + source.size then source[(position + source.size).toNat]?
  else none

/-- The character at a position, or the reason why there is none. -/
def charAt (source : Source) (position : Int) : Except Misplaced Char :=
  match source.index? position with
  | some c => .ok c
  | none => .error (Misplaced.of position)

/-- How far from the beginning a bound of a slice lies. -/
def bound (source : Source) (position : Int) : Nat :=
  if position < 0 then (position + source.size).toNat else min position.toNat source.size

/-- The text from one bound to another, empty when they are not in order. -/
def slice (source : Source) (first last : Int) : Text :=
  (source.extract (source.bound first) (source.bound last)).toList

/-- The text from a bound to the end. -/
def suffix (source : Source) (first : Int) : Text :=
  source.slice first source.size

theorem index?_of_nonneg (source : Source) {position : Int} (h : 0 ≤ position) :
    source.index? position = source[position.toNat]? :=
  if_pos h

/-- A position holds no character when it lies past the end or wraps to before the
beginning. -/
theorem index?_eq_none_iff (source : Source) (position : Int) :
    source.index? position = none ↔ source.size ≤ position ∨ position < -source.size := by
  unfold index?
  split
  · simp only [Array.getElem?_eq_none_iff]
    omega
  · split
    · simp only [Array.getElem?_eq_none_iff]
      omega
    · simp only [true_iff]
      omega

/-- The characters of a source are those at its positions. -/
theorem charAt_eq_ok_iff (source : Source) (position : Int) (c : Char) :
    source.charAt position = .ok c ↔ source.index? position = some c := by
  unfold charAt
  split <;> simp_all

/-- A position outside the source says why it holds no character. -/
theorem charAt_eq_error_iff (source : Source) (position : Int) (reason : Misplaced) :
    source.charAt position = .error reason ↔
      (source.size ≤ position ∨ position < -source.size) ∧ Misplaced.of position = reason := by
  rw [← index?_eq_none_iff]
  unfold charAt
  split <;> simp_all

theorem bound_natCast (source : Source) {n : Nat} (h : n ≤ source.size) :
    source.bound (n : Int) = n := by
  unfold bound
  split <;> omega

/-- A slice takes what stands before its second bound and drops what stands before its
first. -/
theorem slice_eq (source : Source) (first last : Int) :
    source.slice first last =
      (source.toList.take (source.bound last)).drop (source.bound first) := by
  simp [slice, List.drop_take]

/-- From a bound inside the source, the suffix drops what stands before it. -/
theorem suffix_natCast (source : Source) {n : Nat} (h : n ≤ source.size) :
    source.suffix (n : Int) = source.toList.drop n := by
  rw [suffix, slice_eq, bound_natCast source h, bound_natCast source (Nat.le_refl _)]
  simp [List.take_of_length_le]

end Source

end LogicLexer
