import LogicLexer.Proofs.Scanner.Lexeme

/-!
# Scanning a fault

A scan of a fault ends with an error that says where the fault stands and what the source
is from there on. A stray character is named as it is; a numeral with a point too many is
named as the scanner took it in, with a zero before a leading point.

## Main definitions

* `LexError.ofFault` — the error of a fault

## Main results

* `scan_of_fault`, `scan_of_beginsFaulty` — a scan passes over blanks and ends with the error
  of the fault
-/

namespace LogicLexer

open Lexeme Scanner

variable {config : Config} {source : Source} {position : Int} {rest : Text}

instance (c : Char) : Decidable (IsStray c) :=
  inferInstanceAs (Decidable (_ ∧ _))

/-- The error of a fault: where it stands, what the source is from there on, and what the
scanner reads there. -/
def LexError.ofFault (position : Int) (context ahead : Text) : LexError :=
  match ahead.head?.filter (IsStray ·) with
  | some c => .unrecognized [c] context position (adviceFor c)
  | none => .malformed (seeded (numeralRun ahead)) position context malformedAdvice

theorem LexError.ofFault_of_isStray {c : Char} (h : IsStray c) (context : Text) :
    ofFault position context (c :: rest) = .unrecognized [c] context position (adviceFor c) := by
  have hfound : (some c).filter (IsStray ·) = some c :=
    Option.filter_some_pos (p := (IsStray ·)) (decide_eq_true h)
  rw [ofFault, List.head?_cons, hfound]

theorem LexError.ofFault_of_beginsMalformed {ahead : Text} (h : BeginsMalformed ahead)
    (context : Text) :
    ofFault position context ahead =
      .malformed (seeded (numeralRun ahead)) position context malformedAdvice := by
  have hnone : ahead.head?.filter (IsStray ·) = none := by
    rw [Option.filter_eq_none_iff]
    intro c hc hstray
    exact not_beginsMalformed_of_beginsStray ⟨c, hc, of_decide_eq_true hstray⟩ h
  rw [ofFault, hnone]

/-- A scan of a stray character ends with its error. -/
theorem scan_of_isStray {c : Char} (hbound : -source.size ≤ position) (hstray : IsStray c)
    (hahead : source.ahead position = c :: rest) :
    scan config source position =
      .error (.lexical (.ofFault position (source.suffix position) (source.ahead position))) := by
  have hchar : source.charAt position = .ok c := by
    rw [Source.charAt_eq_ok_iff, Source.index?_eq_head?_ahead hbound, hahead, List.head?_cons]
  have hstep : (startingAt position).step config source =
      .error (.lexical (.unrecognized [c] (source.suffix position) position
        (LexError.adviceFor c))) := by
    rw [step_startingAt hbound, hahead, List.head?_cons]
    simp only [Option.elim, enter, hstray.1, Bool.false_eq_true, if_false,
      Mode.opening?_of_isStray hstray, LexError.unrecognizedAt, startingAt, hchar, Except.map]
  rw [scan, run_eq, hstep, hahead, LexError.ofFault_of_isStray hstray]

/-- A scan of a numeral with a point too many ends with its error. -/
theorem scan_of_beginsMalformed (hbound : -source.size ≤ position)
    (hmalformed : BeginsMalformed (source.ahead position)) :
    scan config source position =
      .error (.lexical (.ofFault position (source.suffix position) (source.ahead position))) := by
  have hahead : source.ahead position = numeralRun (source.ahead position) ++
      (source.ahead position).dropWhile isNumeralChar := List.takeWhile_append_dropWhile.symm
  have hne : numeralRun (source.ahead position) ≠ [] := by
    intro hnil
    simp [BeginsMalformed, hnil] at hmalformed
  -- an empty source would be replaced by the numeral itself as the context
  have hsource : source.isEmpty = false := by
    rw [Bool.eq_false_iff]
    intro hempty
    have hsize : source.size = 0 := Array.isEmpty_iff_size_eq_zero.1 hempty
    have hnil : source.ahead position = [] := Source.ahead_eq_nil (by omega)
    exact ne_nil_of_beginsFaulty (.inr hmalformed) hnil
  have hcount : 1 < (seeded (numeralRun (source.ahead position))).count point := by
    rw [count_point_seeded]
    exact hmalformed
  rw [scan_of_numeralRun hbound hne (fun c hc => mem_numeralRun hc) hahead
    fun c hc => eq_false_of_mem_head?_dropWhile hc, numeral_of_one_lt_count hcount hsource,
    LexError.ofFault_of_beginsMalformed hmalformed]
  rfl

/-- A scan passes over the gap ahead and ends with the error of the fault after it. -/
theorem scan_of_fault {gap : Text} (hbound : -source.size ≤ position) (hgap : IsGap gap)
    (hfault : BeginsFaulty rest) (hahead : source.ahead position = gap ++ rest) :
    scan config source position =
      .error (.lexical (.ofFault (position + gap.length)
        (source.suffix (position + gap.length)) rest)) := by
  have hnext := Source.ahead_add_length hbound hahead
  rw [scan_skip hgap hbound hahead, ← hnext]
  rcases hfault with ⟨c, hc, hstray⟩ | hmalformed
  · obtain ⟨tail, rfl⟩ := List.head?_eq_some_iff.1 hc
    exact scan_of_isStray (by omega) hstray hnext
  · exact scan_of_beginsMalformed (by omega) (hnext ▸ hmalformed)

/-- From a position in the source the error of a fault carries the text from the fault on. -/
theorem scan_of_beginsFaulty {n : Nat} {gap : Text} (hgap : IsGap gap) (hfault : BeginsFaulty rest)
    (hahead : source.ahead n = gap ++ rest) :
    scan config source n =
      .error (.lexical (.ofFault ((n + gap.length : Nat) : Int) rest rest)) := by
  have hcontext : source.suffix ((n + gap.length : Nat) : Int) = rest := by
    rw [Source.suffix_eq_ahead, Int.natCast_add]
    exact Source.ahead_add_length (by omega) hahead
  rw [scan_of_fault (by omega) hgap hfault hahead, ← Int.natCast_add, hcontext]

end LogicLexer
