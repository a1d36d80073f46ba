import LogicLexer.Proofs.Scanner.Reading

/-!
# The invariant of a scanner

At every step of a scan the start of the token stands behind nothing but blanks, the position is
not past the end of the source, and the mode says what stands between the two. The buffer holds
just that text, but for a numeral that begins with its point: there a zero stands before it that
the source does not have. The states of which all this is true are those that scans go through,
and no others.

## Main definitions

* `Lexeme.IsPointed` — digits, a point, and what may follow it
* `Mode.Holds` — what a mode says of the text read of a token and of the text taken in
* `Scanner.Invariant` — the invariant of a scan from a position

## Main results

* `Mode.holds_iff` — the text taken in is determined by the text read
* `Scanner.invariant_reading`, `Scanner.Invariant.readsFrom` — the invariant by what has been read
* `Scanner.exists_reaches_iff_invariant` — the states of a scan are those that satisfy the
  invariant
-/

namespace LogicLexer

open Lexeme

/-! ### Numerals with a point -/

namespace Lexeme

/-- Digits, then a point, and behind it digits and points in any order. -/
def IsPointed (text : Text) : Prop :=
  ∃ digits rest, text = digits ++ point :: rest ∧ digits ≠ [] ∧
    (∀ c ∈ digits, isDigit c = true) ∧ ∀ c ∈ rest, isNumeralChar c = true

variable {text : Text}

theorem IsPointed.point_mem (h : IsPointed text) : point ∈ text := by
  obtain ⟨digits, rest, rfl, -⟩ := h
  exact List.mem_append_right _ List.mem_cons_self

theorem IsPointed.isNumeralChar (h : IsPointed text) : ∀ c ∈ text, isNumeralChar c = true := by
  obtain ⟨digits, rest, rfl, -, hdigits, hrest⟩ := h
  refine List.forall_mem_append.2 ⟨?_, List.forall_mem_cons.2 ⟨rfl, hrest⟩⟩
  exact fun c hc => isNumeralChar_of_isDigit (hdigits c hc)

/-- With the zero before a leading point, digits and points with a point among them are digits
up to the first one. -/
theorem isPointed_seeded (hpoint : point ∈ text) (htext : ∀ c ∈ text, isNumeralChar c = true) :
    IsPointed (seeded text) := by
  obtain ⟨digits, rest, rfl, hfirst⟩ := List.eq_append_cons_of_mem hpoint
  obtain ⟨hdigits, htail⟩ := List.forall_mem_append.1 htext
  have hrest := (List.forall_mem_cons.1 htail).2
  cases digits with
  | nil =>
    refine ⟨['0'], rest, seeded_point_cons rest, List.cons_ne_nil _ _, ?_, hrest⟩
    exact List.forall_mem_singleton.2 (by decide)
  | cons d digits =>
    have hne : ∀ c ∈ d :: digits, c ≠ point := fun c hc heq => hfirst (heq ▸ hc)
    refine ⟨d :: digits, rest, ?_, List.cons_ne_nil _ _, fun c hc => ?_, hrest⟩
    · exact seeded_cons_of_ne (hne d List.mem_cons_self) _
    · exact isDigit_of_isNumeralChar (hdigits c hc) (hne c hc)

end Lexeme

/-! ### What a mode says -/

namespace Mode

variable {mode : Mode} {text taken : Text}

/-- What a mode says of the text that has been read of a token, and of the text that has been
taken in. Only where the token begins with a point are they different, by a zero. -/
def Holds : Mode → (text taken : Text) → Prop
  | start, text, taken => text = [] ∧ taken = []
  | numericPoint, text, taken =>
    IsPointed taken ∧ ∃ c ∈ text.head?,
      isDigit c = true ∧ taken = text ∨ c = point ∧ taken = '0' :: text
  | mode, text, taken => taken = text ∧ mode.Reads text

/-- In the other modes no token begins with a point. -/
theorem Reads.seeded_eq (h : mode.Reads text) (hne : mode ≠ numericPoint) : seeded text = text := by
  cases text with
  | nil => rfl
  | cons c rest =>
    refine seeded_cons_of_ne ?_ rest
    cases mode with
    | start => cases h
    | identifier => exact ne_of_class h.1 rfl
    | numeric => exact ne_point_of_isDigit (h.2 c List.mem_cons_self)
    | numericPoint => exact absurd rfl hne
    | single =>
      obtain ⟨d, hd, -, heq⟩ := h
      obtain ⟨rfl, -⟩ := List.cons.inj heq
      exact ne_of_class (List.contains_iff_mem.2 hd) rfl
    | possibleArrow =>
      obtain ⟨rfl, -⟩ := List.cons.inj h
      decide

theorem holds_numericPoint_iff :
    numericPoint.Holds text taken ↔ numericPoint.Reads text ∧ taken = seeded text := by
  constructor
  · rintro ⟨hpointed, c, hc, htaken⟩
    obtain ⟨rest, rfl⟩ := List.head?_eq_some_iff.1 hc
    rcases htaken with ⟨hdigit, rfl⟩ | ⟨rfl, rfl⟩
    · have hseeded := seeded_cons_of_ne (ne_point_of_isDigit hdigit) rest
      exact ⟨⟨hpointed.point_mem, hpointed.isNumeralChar⟩, hseeded.symm⟩
    · have hrest := (List.forall_mem_cons.1 hpointed.isNumeralChar).2
      exact ⟨⟨List.mem_cons_self, hrest⟩, (seeded_point_cons rest).symm⟩
  · rintro ⟨hreads, rfl⟩
    refine ⟨isPointed_seeded hreads.1 hreads.2, ?_⟩
    obtain ⟨c, rest, rfl⟩ := List.exists_cons_of_ne_nil (List.ne_nil_of_mem hreads.1)
    refine ⟨c, rfl, ?_⟩
    by_cases hpoint : c = point
    · exact .inr ⟨hpoint, if_pos hpoint⟩
    · have hdigit := isDigit_of_isNumeralChar (hreads.2 c List.mem_cons_self) hpoint
      exact .inl ⟨hdigit, if_neg hpoint⟩

/-- What a mode says is that the text can be read in it, and has been taken in with a zero before
a leading point. -/
theorem holds_iff : mode.Holds text taken ↔ mode.Reads text ∧ taken = seeded text := by
  cases mode with
  | start =>
    refine and_congr_right fun hnil => ?_
    obtain rfl : text = [] := hnil
    rfl
  | numericPoint => exact holds_numericPoint_iff
  | _ =>
    refine and_comm.trans (and_congr_right fun hreads => ?_)
    rw [hreads.seeded_eq (by decide)]

end Mode

/-! ### The invariant -/

/-- A slice that ends in the source is as long as its bounds are apart. -/
theorem Source.length_slice {source : Source} {n length : Nat}
    (h : n + length ≤ max n source.size) : (source.slice n (n + length)).length = length := by
  rw [slice_eq_take_ahead, ahead_natCast, List.length_take, List.length_drop, Array.length_toList]
  omega

/-- What lies ahead of a position is a slice from there, and what lies ahead of its end. -/
theorem Source.slice_append_ahead (source : Source) (n length : Nat) :
    source.slice n (n + length) ++ source.ahead (n + length) = source.ahead n := by
  rw [slice_eq_take_ahead, ahead_add (by omega), List.take_append_drop]

namespace Scanner

/-- The invariant of a scan from a position: the token starts behind nothing but blanks, the
source has not been read past its end, and the mode holds of the source between the start of the
token and the position, and of the buffer. -/
structure Invariant (source : Source) (first : Int) (scanner : Scanner) : Prop where
  first_le_start : first ≤ scanner.start
  start_le_position : scanner.start ≤ scanner.position
  position_le : scanner.position ≤ max first source.size
  isGap : IsGap (source.slice first scanner.start)
  start_eq_position : scanner.mode = .start → scanner.start = scanner.position
  holds : scanner.mode.Holds (source.slice scanner.start scanner.position) scanner.buffer.toList

variable {source : Source} {scanner : Scanner} {n : Nat} {gap text rest : Text} {mode : Mode}

/-- What stands at a position can be read from there with the invariant. -/
theorem invariant_reading (hgap : IsGap gap) (hreads : mode.Reads text)
    (hahead : source.ahead n = gap ++ text ++ rest) :
    Invariant source n (reading n mode gap text) := by
  rw [List.append_assoc] at hahead
  have hlength := congrArg List.length hahead
  rw [Source.ahead_natCast, List.length_drop, Array.length_toList, List.length_append,
    List.length_append] at hlength
  have hnext : source.ahead ((n + gap.length : Nat) : Int) = text ++ rest := by
    rw [Int.natCast_add]
    exact Source.ahead_add_length (by omega) hahead
  have htext : source.slice (n + gap.length) (n + gap.length + text.length) = text := by
    rw [← Int.natCast_add, Source.slice_of_ahead hnext]
  exact {
    first_le_start := by
      simp only [reading]
      omega
    start_le_position := by
      simp only [reading]
      omega
    position_le := by
      simp only [reading]
      omega
    isGap := by
      simp only [reading, Source.slice_of_ahead hahead]
      exact hgap
    start_eq_position := by
      rintro rfl
      obtain rfl : text = [] := hreads
      simp only [reading, List.length_nil, Int.natCast_zero, Int.add_zero]
    holds := by
      simp only [reading, htext]
      exact Mode.holds_iff.2 ⟨hreads, rfl⟩ }

/-- With the invariant a scanner has read what stands between the positions it names. -/
theorem Invariant.readsFrom (h : Invariant source n scanner) : ReadsFrom source n scanner := by
  obtain ⟨k, hstart⟩ := Int.le.dest h.first_le_start
  obtain ⟨m, hposition⟩ := Int.le.dest h.start_le_position
  have hle := h.position_le
  have hgap : (source.slice n scanner.start).length = k := by
    rw [← hstart, Source.length_slice (by omega)]
  have htext : (source.slice scanner.start scanner.position).length = m := by
    rw [← hposition, ← hstart, ← Int.natCast_add, Source.length_slice (by omega)]
  obtain ⟨hreads, hbuffer⟩ := Mode.holds_iff.1 h.holds
  refine ⟨_, _, source.ahead scanner.position, scanner.mode, h.isGap, hreads, ?_, ?_⟩
  · rw [List.append_assoc, ← hposition, ← hstart, ← Int.natCast_add, Source.slice_append_ahead,
      Int.natCast_add, Source.slice_append_ahead]
  · rw [reading, hgap, htext, hstart, hposition, ← hbuffer, Array.toArray_toList]

/-- The states that a scan goes through, whatever its configuration, are those that satisfy the
invariant of a scan from the position where it began. -/
theorem exists_reaches_iff_invariant (config : Config) (source : Source) (first : Nat)
    (scanner : Scanner) :
    (∃ steps, Reaches config source (startingAt first) steps scanner) ↔
      Invariant source first scanner := by
  rw [exists_reaches_iff_readsFrom (by omega)]
  constructor
  · rintro ⟨gap, text, rest, mode, hgap, hreads, hahead, rfl⟩
    exact invariant_reading hgap hreads hahead
  · exact Invariant.readsFrom

/-- The buffer of a numeral that begins with its point holds a zero that is not in the source. -/
example : (startingAt 0).step {} #['.', '5'] =
    .ok (.resume ⟨.numericPoint, #['0', '.'], 0, 1⟩) := rfl

end Scanner

end LogicLexer
