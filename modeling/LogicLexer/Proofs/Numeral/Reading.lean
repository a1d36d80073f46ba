import LogicLexer.Numeral.Reading
import LogicLexer.Proofs.CharClass.Disjoint

/-!
# The value of a digit run

Reading a digit run block by block gives its positional value. Within one block digits
are neither padding nor signs nor underscores, so the lenient form of a block adds
nothing to them, and they are never too many to be converted; across blocks the values
add up by their places wherever the cuts fall.

## Main results

* `Numeral.ofText_eq` — digits within the limit are converted to their positional value
* `Numeral.readFrom_eq` — blocks add up by their places
* `Numeral.read_eq` — a digit run is worth its positional value
* `Numeral.read_eq_foldl_and_append` — digit runs are read digit by digit, and add up by their
  places where they are put together
-/

namespace LogicLexer.Numeral

theorem digitValue?_eq {c : Char} (h : isDigit c = true) : digitValue? c = some (digitValue c) := by
  rw [digitValue]
  exact (Option.some_get h).symm.trans (congrArg some (Option.get_eq_getD _))

theorem positionalFrom_cons (value : Nat) (c : Char) (rest : Text) :
    positionalFrom value (c :: rest) = positionalFrom (value * 10 + digitValue c) rest := rfl

/-- Digits that follow a digit are read without regard to grouping. -/
theorem grouped?_eq {value : Nat} {text : Text} (h : ∀ c ∈ text, isDigit c = true) :
    grouped? value text = some (positionalFrom value text) := by
  induction text generalizing value with
  | nil => rfl
  | cons c rest ih =>
    obtain ⟨hc, hrest⟩ := List.forall_mem_cons.1 h
    -- the case for grouped digits does not apply, since a digit is no underscore
    have hne : c ≠ '_' := ne_of_class hc rfl
    rw [grouped?.eq_3 value c rest fun _ _ hunderscore _ => hne hunderscore, digitValue?_eq hc,
      Option.bind_some, ih hrest, positionalFrom_cons]

theorem unsigned?_eq {text : Text} (h : ∀ c ∈ text, isDigit c = true) (hne : text ≠ []) :
    unsigned? text = some (positional text) := by
  cases text with
  | nil => exact absurd rfl hne
  | cons c rest =>
    obtain ⟨hc, hrest⟩ := List.forall_mem_cons.1 h
    rw [unsigned?, digitValue?_eq hc, Option.bind_some, grouped?_eq hrest,
      positional, positionalFrom_cons, Nat.zero_mul, Nat.zero_add]

/-- Digits carry no sign. -/
theorem signed?_eq {text : Text} (h : ∀ c ∈ text, isDigit c = true) (hne : text ≠ []) :
    signed? text = some (positional text : Int) := by
  unfold signed?
  split
  · exact absurd (h '-' List.mem_cons_self) Bool.false_ne_true
  · exact absurd (h '+' List.mem_cons_self) Bool.false_ne_true
  · rw [unsigned?_eq h hne]
    rfl

theorem isPadding_eq_false_of_isDigit {c : Char} (h : isDigit c = true) : isPadding c = false := by
  rw [isPadding, isBlank_eq_false_of_isDigit h, Bool.false_and]

/-- Digits have no padding around them. -/
theorem unpadded_eq {text : Text} (h : ∀ c ∈ text, isDigit c = true) : unpadded text = text := by
  have hkeep (digits : Text) (hdigits : ∀ c ∈ digits, isDigit c = true) :
      digits.dropWhile isPadding = digits := by
    cases digits with
    | nil => rfl
    | cons c rest =>
      have := isPadding_eq_false_of_isDigit (hdigits c List.mem_cons_self)
      rw [List.dropWhile_cons_of_neg (by simp [this])]
  rw [unpadded, hkeep text h, hkeep _ fun c hc => h c (List.mem_reverse.1 hc),
    List.reverse_reverse]

/-- Digits within the limit are converted to their positional value. -/
theorem ofText_eq {text : Text} (h : ∀ c ∈ text, isDigit c = true) (hne : text ≠ [])
    (hlimit : text.length ≤ digitLimit) : ofText text = .ok (positional text : Int) := by
  have hcount : text.countP isDigit ≤ digitLimit :=
    Nat.le_trans List.countP_le_length hlimit
  simp only [ofText, unpadded_eq h, signed?_eq h hne]
  exact if_neg (Nat.not_lt.2 hcount)

/-- A block of a digit run is never too long to be converted. -/
theorem ofText_take_eq {text : Text} (h : ∀ c ∈ text, isDigit c = true) (hne : text ≠ []) :
    ofText (text.take blockLength) = .ok (positional (text.take blockLength) : Int) := by
  apply ofText_eq
  · intro c hc
    exact h c (List.mem_of_mem_take hc)
  · simpa [blockLength] using hne
  · exact Nat.le_trans (List.length_take_le _ _) blockLength_le_digitLimit

/-- A digit run moves what was read before it up by its length and adds its positional
value, wherever the blocks are cut. -/
theorem readFrom_eq (value : Int) {text : Text} (h : ∀ c ∈ text, isDigit c = true) :
    readFrom value text = .ok (value * placeValue text.length + positional text) := by
  -- a step takes off a whole block, so the induction is on the length
  induction hn : text.length using Nat.strongRecOn generalizing value text with
  | ind n ih =>
    cases text with
    | nil => simp [readFrom, positional, positionalFrom, ← hn, placeValue_zero]
    | cons c rest =>
      have hsplit := List.take_append_drop blockLength (c :: rest)
      have hdrop : ∀ d ∈ (c :: rest).drop blockLength, isDigit d = true := by
        intro d hd
        exact h d (List.mem_of_mem_drop hd)
      have hless : ((c :: rest).drop blockLength).length < n := by
        simp only [List.length_drop, List.length_cons, blockLength] at hn ⊢
        omega
      have hlength : ((c :: rest).take blockLength).length +
          ((c :: rest).drop blockLength).length = n := by
        rw [← List.length_append, hsplit, hn]
      rw [readFrom]
      simp only [ofText_take_eq h (List.cons_ne_nil c rest)]
      rw [ih _ hless _ hdrop rfl]
      -- both sides are now sums over the block and what follows it
      rw [← hsplit, positional_append, hsplit, ← hlength, placeValue_add, Int.natCast_add,
        Int.natCast_mul, Int.natCast_mul, Int.add_mul, Int.mul_assoc, Int.add_assoc]

/-- A digit run of any length is worth its positional value. -/
theorem read_eq {text : Text} (h : ∀ c ∈ text, isDigit c = true) :
    read text = .ok (positional text : Int) := by
  rw [read, readFrom_eq 0 h, Int.zero_mul, Int.zero_add]

/-- A digit run of any length and of any scripts is read digit by digit, each digit adding its
worth to ten times what was read before it. Of two runs put together the first moves up by the
length of the second, wherever the blocks are cut. -/
theorem read_eq_foldl_and_append {left right : Text} (hleft : ∀ c ∈ left, isDigit c = true)
    (hright : ∀ c ∈ right, isDigit c = true) :
    read left = .ok (left.foldl (fun value c => value * 10 + digitValue c) 0 : Nat) ∧
      ∃ m n : Int, read left = .ok m ∧ read right = .ok n ∧
        read (left ++ right) = .ok (m * placeValue right.length + n) := by
  have hboth : ∀ c ∈ left ++ right, isDigit c = true := List.forall_mem_append.2 ⟨hleft, hright⟩
  refine ⟨read_eq hleft, _, _, read_eq hleft, read_eq hright, ?_⟩
  rw [read_eq hboth, positional_append, Int.natCast_add, Int.natCast_mul]

/-- Two runs of different scripts that are each shorter than a block and together longer. -/
theorem read_eq_foldl_and_append_across_blocks :
    let left : Text := List.replicate 700 '9'
    let right : Text := '0' :: List.replicate 699 '\u0663'
    (∀ c ∈ left, isDigit c = true) ∧ (∀ c ∈ right, isDigit c = true) ∧
      read left = .ok (left.foldl (fun value c => value * 10 + digitValue c) 0 : Nat) ∧
      ∃ m n : Int, read left = .ok m ∧ read right = .ok n ∧
        read (left ++ right) = .ok (m * placeValue right.length + n) := by
  intro left right
  have hleft : ∀ c ∈ left, isDigit c = true := by
    intro c hc
    rw [List.eq_of_mem_replicate hc]
    decide
  have hright : ∀ c ∈ right, isDigit c = true := by
    intro c hc
    rcases List.mem_cons.1 hc with rfl | hc
    · decide
    · rw [List.eq_of_mem_replicate hc]
      decide
  exact ⟨hleft, hright, read_eq_foldl_and_append hleft hright⟩

end LogicLexer.Numeral
