import Mathlib.Data.List.Chain
import LogicLexer.Proofs.Grammar.Layout

/-!
# Gaps that keep lexemes apart

Whether a spaced layout is well formed is decided between neighbours: only an empty gap
lets a lexeme run into the next one, and only some lexemes do. How long the other gaps
are, and which blanks they hold, does not matter.

## Main definitions

* `Lexeme.Glues` — two lexemes that would run into each other
* `Layout.Separated` — no empty gap stands between two lexemes that glue

## Main results

* `Layout.Spaced.wellFormed_iff_separated` — a spaced layout is well formed exactly when
  it is separated
-/

namespace LogicLexer

open Lexeme

/-- The second lexeme begins with a character that goes on with the first. -/
def Lexeme.Glues (left right : Text) : Prop :=
  ∃ c ∈ right.head?, Extends left c

namespace Layout

variable {layout : Layout} {gap lexeme next : Text}

/-- No empty gap stands between two lexemes that glue. -/
def Separated (layout : Layout) : Prop :=
  layout.pieces.IsChain fun left right => right.1 = [] → ¬ Glues left.2 right.2

theorem separated_nil (ending : Text) : Separated ⟨[], ending⟩ :=
  List.IsChain.nil

theorem separated_singleton (gap lexeme ending : Text) :
    ((⟨[], ending⟩ : Layout).cons gap lexeme).Separated :=
  List.IsChain.singleton _

theorem separated_cons_cons {gap' : Text} :
    ((layout.cons gap' next).cons gap lexeme).Separated ↔
      (gap' = [] → ¬ Glues lexeme next) ∧ (layout.cons gap' next).Separated :=
  List.isChain_cons_cons

/-- A gap does not go on with any lexeme. -/
theorem not_extends_head?_of_isGap (h : IsGap gap) : ∀ c ∈ gap.head?, ¬ Extends lexeme c := by
  intro c hc
  exact not_extends_of_isBlank (h c (List.mem_of_mem_head? hc))

/-- What follows a lexeme leaves it alone unless it begins with a lexeme that glues. -/
theorem forall_not_extends_iff (hgap : IsGap gap) (hnext : IsLexeme next) :
    (∀ c ∈ (layout.cons gap next).text.head?, ¬ Extends lexeme c) ↔
      (gap = [] → ¬ Glues lexeme next) := by
  rw [text_cons, List.append_assoc]
  cases gap with
  | nil =>
    obtain ⟨first, tail, rfl, -⟩ := exists_cons_of_isLexeme hnext
    simp [Glues]
  | cons blank gap =>
    -- a blank follows, and no lexeme goes on with one
    have hblank := hgap blank List.mem_cons_self
    simp [not_extends_of_isBlank hblank]

/-- A spaced layout is well formed exactly when it is separated. -/
theorem Spaced.wellFormed_iff_separated (h : layout.Spaced) :
    layout.WellFormed ↔ layout.Separated := by
  induction layout using consInduction with
  | nil ending => exact iff_of_true (wellFormed_nil.2 h.2) (separated_nil ending)
  | cons gap lexeme layout ih =>
    obtain ⟨hpiece, hrest⟩ := spaced_cons.1 h
    rw [wellFormed_cons, ih hrest]
    -- the last lexeme is followed by the ending, every other one by its neighbour
    cases layout using consInduction with
    | nil ending =>
      have hfollow : ∀ c ∈ ending.head?, ¬ Extends lexeme c := not_extends_head?_of_isGap hrest.2
      exact iff_of_true ⟨hpiece.1, hpiece.2, hfollow, separated_nil ending⟩
        (separated_singleton gap lexeme ending)
    | cons gap' next layout =>
      obtain ⟨hgap', hnext⟩ := (spaced_cons.1 hrest).1
      rw [separated_cons_cons, forall_not_extends_iff hgap' hnext]
      exact ⟨fun hwell => hwell.2.2, fun hsep => ⟨hpiece.1, hpiece.2, hsep⟩⟩

end Layout

end LogicLexer
