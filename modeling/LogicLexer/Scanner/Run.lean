import LogicLexer.Scanner.Basic

/-!
# Scanning one token

A scanner is run until it stops. Every step that goes on moves by one character towards
the end of the source, so it always does, and a run that began before the end of the
source ends past its beginning.

## Main definitions

* `Scanner.run` — a scanner run to its end
* `scan` — the first token from a position on, and where it ends
* `scanFront` — the first token of a text, and the text after it

## Main results

* `Scanner.run_eq` — running is stepping until the scanner stops
* `lt_of_scan` — a scan that starts before the end of the source makes progress
* `length_lt_of_scanFront` — what is left of a text is shorter
-/

namespace LogicLexer

namespace Scanner

/-- The token that a scanner comes to, if any, and the position after it. -/
def run (config : Config) (source : Source) (scanner : Scanner) :
    Except Failure (Option Token × Int) :=
  match hstep : scanner.step config source with
  | .error failure => .error failure
  | .ok (.stop token? position) => .ok (token?, position)
  | .ok (.resume next) =>
    have := position_of_resume hstep
    next.run config source
termination_by (source.size - scanner.position).toNat
decreasing_by omega

/-- Running is stepping until the scanner stops. -/
theorem run_eq (config : Config) (source : Source) (scanner : Scanner) :
    scanner.run config source =
      match scanner.step config source with
      | .error failure => .error failure
      | .ok (.stop token? position) => .ok (token?, position)
      | .ok (.resume next) => next.run config source := by
  rw [run]
  split <;> simp_all

/-- A run does not move back. -/
theorem le_of_run {config : Config} {source : Source} {scanner : Scanner}
    {token? : Option Token} {position : Int}
    (h : scanner.run config source = .ok (token?, position)) : scanner.position ≤ position := by
  fun_induction run config source scanner with
  | case1 => simp at h
  | case2 scanner found last hstep =>
    simp only [Except.ok.injEq, Prod.mk.injEq] at h
    have := le_position_of_stop hstep
    omega
  | case3 scanner next hstep _ ih =>
    have := ih h
    have := position_of_resume hstep
    omega

end Scanner

/-- The first token from a position on, if there is one before the end of the source,
and the position after it. -/
def scan (config : Config) (source : Source) (position : Int) :
    Except Failure (Option Token × Int) :=
  (Scanner.startingAt position).run config source

/-- A scan that starts before the end of the source makes progress. -/
theorem lt_of_scan {config : Config} {source : Source} {position next : Int}
    {token? : Option Token} (h : scan config source position = .ok (token?, next))
    (hlt : position < source.size) : position < next := by
  rw [scan, Scanner.run_eq] at h
  split at h
  · simp at h
  · rename_i found last hstep
    have := Scanner.size_le_of_stop_of_start rfl hstep
    simp only [Scanner.startingAt] at this
    omega
  · rename_i scanner hstep
    have := Scanner.le_of_run h
    have := (Scanner.position_of_resume hstep).1
    simp only [Scanner.startingAt] at this
    omega

/-- The first token of a text, if it has one, and the text after it. -/
def scanFront (config : Config) (text : Text) : Except Failure (Option Token × Text) :=
  (scan config text.toArray 0).map fun found => (found.1, Source.suffix text.toArray found.2)

/-- What is left of a text that is not empty is shorter. -/
theorem length_lt_of_scanFront {config : Config} {text rest : Text} {token? : Option Token}
    (h : scanFront config text = .ok (token?, rest)) (hne : text ≠ []) :
    rest.length < text.length := by
  unfold scanFront at h
  cases hscan : scan config text.toArray 0 with
  | error failure => simp [hscan, Except.map] at h
  | ok found =>
    simp only [hscan, Except.map, Except.ok.injEq, Prod.mk.injEq] at h
    have hpos := List.length_pos_iff.2 hne
    have hnext : (0 : Int) < found.2 := lt_of_scan hscan (by simp; omega)
    rw [← h.2, Source.suffix, Source.slice_eq]
    simp only [List.length_drop, List.length_take, Source.bound, List.size_toArray]
    split <;> split <;> omega

end LogicLexer
