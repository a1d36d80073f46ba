import LogicLexer.Proofs.Grammar.Separation

/-!
# Lexemes replaced in place

A word may be replaced by another word wherever it stands. What follows it goes on with the
one exactly if it goes on with the other, and what stands before it cannot tell the two
apart, since a word shows itself by its first character. So all gaps, the empty ones as well,
keep the lexemes apart as before.

## Main definitions

* `Lexeme.MayReplace` — a lexeme that may stand in place of another

## Main results

* `Lexeme.MayReplace.glues_iff` — neighbours run into each other exactly as before
* `Layout.WellFormed.mapLexemes` — a well-formed layout stays well formed
-/

namespace LogicLexer

namespace Lexeme

variable {text old new : Text} {c : Char}

/-- The new lexeme may stand in place of the old one: it is the same, or both are words. -/
def MayReplace (old new : Text) : Prop :=
  new = old ∨ (IsWord old ∧ IsWord new)

/-- The first character of a word goes on with nothing but words. -/
theorem extends_iff_of_isWordStart (h : isWordStart c = true) : Extends text c ↔ IsWord text := by
  constructor
  · rintro (⟨hword, -⟩ | ⟨-, hnumeral⟩ | ⟨-, rfl⟩)
    · exact hword
    · exact absurd hnumeral (by simp [isNumeralChar_eq_false_of_isWordStart h])
    · exact absurd h (by decide)
  · intro hword
    exact .inl ⟨hword, isWordPart_of_isWordStart h⟩

/-- Only another word runs into a word. -/
theorem glues_iff_of_isWord (h : IsWord new) : Glues text new ↔ IsWord text := by
  cases new with
  | nil => exact absurd h not_isWord_nil
  | cons first rest => simp [Glues, extends_iff_of_isWordStart h.1]

namespace MayReplace

theorem isLexeme (h : MayReplace old new) (hold : IsLexeme old) : IsLexeme new := by
  rcases h with rfl | ⟨-, hword⟩
  · exact hold
  · exact .inl hword

theorem isWord_iff (h : MayReplace old new) : IsWord new ↔ IsWord old := by
  rcases h with rfl | ⟨hold, hnew⟩
  · rfl
  · exact iff_of_true hnew hold

/-- The same characters go on with a lexeme and with its replacement. -/
theorem extends_iff (h : MayReplace old new) : Extends new c ↔ Extends old c := by
  rcases h with rfl | ⟨hold, hnew⟩
  · rfl
  · rw [extends_iff_of_isWord hnew, extends_iff_of_isWord hold]

/-- Two neighbours run into each other exactly if their replacements do. -/
theorem glues_iff {left right left' right' : Text} (hleft : MayReplace left left')
    (hright : MayReplace right right') : Glues left' right' ↔ Glues left right := by
  rcases hright with rfl | ⟨hold, hnew⟩
  · simp only [Glues, hleft.extends_iff]
  · rw [glues_iff_of_isWord hnew, glues_iff_of_isWord hold, hleft.isWord_iff]

end MayReplace

end Lexeme

namespace Layout

open Lexeme

variable {layout : Layout} {f : Text → Text}

@[simp] theorem lexemes_mapLexemes (f : Text → Text) (layout : Layout) :
    (layout.mapLexemes f).lexemes = layout.lexemes.map f := by
  rw [lexemes, lexemes, mapLexemes, List.map_map, List.map_map]
  rfl

/-- A replacement made twice is made at once. -/
theorem mapLexemes_mapLexemes (f g : Text → Text) (layout : Layout) :
    (layout.mapLexemes f).mapLexemes g = layout.mapLexemes (g ∘ f) := by
  rw [mapLexemes, mapLexemes, mapLexemes, List.map_map]
  rfl

theorem mapLexemes_id (layout : Layout) : layout.mapLexemes id = layout :=
  congrArg (Layout.mk · layout.ending) (List.map_id layout.pieces)

/-- A well-formed layout stays well formed when its lexemes are replaced in place. -/
theorem WellFormed.mapLexemes (h : layout.WellFormed) (hf : ∀ text, MayReplace text (f text)) :
    (layout.mapLexemes f).WellFormed := by
  have hspaced : (layout.mapLexemes f).Spaced := by
    refine ⟨?_, h.spaced.2⟩
    intro piece hpiece
    obtain ⟨source, hsource, rfl⟩ := List.mem_map.1 hpiece
    obtain ⟨hgap, hlexeme⟩ := h.spaced.1 source hsource
    exact ⟨hgap, (hf source.2).isLexeme hlexeme⟩
  rw [hspaced.wellFormed_iff_separated, Separated, Layout.mapLexemes, List.isChain_map]
  refine (h.spaced.wellFormed_iff_separated.1 h).imp ?_
  intro left right hapart hnil hglues
  exact hapart hnil (((hf left.2).glues_iff (hf right.2)).1 hglues)

end Layout

end LogicLexer
