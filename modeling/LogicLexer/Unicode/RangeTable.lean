/-!
# Range tables

A property of characters is kept as the list of the runs of code points that have it.
The runs stand in ascending order with a gap between any two, so looking a code point up
can stop at the first run that begins after it.

## Main definitions

* `RangeTable.contains` — membership in one of the runs
* `RangeTable.isAscending` — the order that a lookup relies on

## Main results

* `RangeTable.contains_iff` — stopping early misses no run of an ascending table
-/

namespace LogicLexer.Unicode

/-- Runs of code points, each given by its first and its last member. -/
abbrev RangeTable := List (Nat × Nat)

namespace RangeTable

/-- The code point lies in one of the runs before the first that begins after it. -/
def contains : RangeTable → Nat → Bool
  | [], _ => false
  | (first, last) :: rest, n => if n < first then false else n ≤ last || contains rest n

/-- No run is empty, the first begins at `least` or later, and a gap follows each run. -/
def isAscending (least : Nat) : RangeTable → Bool
  | [] => true
  | (first, last) :: rest => least ≤ first && first ≤ last && isAscending (last + 2) rest

/-- How many code points the runs have together. -/
def size (table : RangeTable) : Nat :=
  table.foldl (fun total run => total + (run.2 + 1 - run.1)) 0

/-- In an ascending table no run begins before the bound. -/
theorem le_first_of_mem {table : RangeTable} {least : Nat} (h : isAscending least table = true)
    {run : Nat × Nat} (hrun : run ∈ table) : least ≤ run.1 := by
  induction table generalizing least with
  | nil => simp at hrun
  | cons head rest ih =>
    simp only [isAscending, Bool.and_eq_true, decide_eq_true_eq] at h
    rcases List.mem_cons.1 hrun with rfl | hrest
    · exact h.1.1
    · have := ih h.2 hrest
      omega

/-- An ascending table contains exactly the members of its runs. -/
theorem contains_iff {table : RangeTable} {least : Nat} (h : isAscending least table = true)
    (n : Nat) : table.contains n = true ↔ ∃ run ∈ table, run.1 ≤ n ∧ n ≤ run.2 := by
  induction table generalizing least with
  | nil => simp [contains]
  | cons head rest ih =>
    have hrest : isAscending (head.2 + 2) rest = true := by
      simp only [isAscending, Bool.and_eq_true] at h
      exact h.2
    have hle : head.1 ≤ head.2 := by
      simp only [isAscending, Bool.and_eq_true, decide_eq_true_eq] at h
      exact h.1.2
    simp only [contains, List.mem_cons, exists_eq_or_imp]
    split
    · rename_i hlt
      simp only [Bool.false_eq_true, false_iff, not_or, not_exists, not_and]
      refine ⟨by omega, fun run hrun hfirst => ?_⟩
      have := le_first_of_mem hrest hrun
      omega
    · rename_i hge
      rw [Bool.or_eq_true, decide_eq_true_eq, ih hrest]
      constructor
      · rintro (hlast | hmem)
        · exact .inl ⟨by omega, hlast⟩
        · exact .inr hmem
      · rintro (hhead | hmem)
        · exact .inl hhead.2
        · exact .inr hmem

end RangeTable

end LogicLexer.Unicode
