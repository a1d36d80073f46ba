import LogicLexer.Proofs.MapM
import LogicLexer.Proofs.Grammar.Separation
import LogicLexer.Proofs.Tokenize.Layout

/-!
# Lexemes put side by side

The lexemes that the reading of sources comes to are those of the grammar, and each of
them is read alone as its own token. Side by side, with blanks around them as one likes,
they are read as the same tokens exactly when none of them can run into the next.

## Main definitions

* `Lexeme.Occurs` — the lexeme of a token of some source

## Main results

* `Lexeme.occurs_iff` — the lexemes that occur are those of the grammar
* `Layout.wellFormed_of_tokenize` — a spaced layout that is read as its tokens is well
  formed
* `tokenize_text_iff_separated` — when lexemes side by side are read as they are alone
-/

namespace LogicLexer

open Lexeme

variable {config : Config} {lexeme : Text} {layout : Layout}

/-- The text is the lexeme of a token that some source is read as. -/
def Lexeme.Occurs (lexeme : Text) : Prop :=
  ∃ config source tokens,
    tokenize config source = .ok tokens ∧ ∃ token ∈ tokens, token.lexeme = lexeme

/-- A lexeme alone is read as its token. -/
theorem tokenize_of_isLexeme (config : Config) (h : IsLexeme lexeme) :
    tokenize config lexeme = .ok [Lexeme.token config lexeme] := by
  have hwell : (Layout.cons [] lexeme ⟨[], []⟩).WellFormed :=
    Layout.wellFormed_cons.2 ⟨isGap_nil, h, by simp, isGap_nil⟩
  have hread := tokenize_of_wellFormed config hwell
  rwa [Layout.text_cons, Layout.text_nil, List.nil_append, List.append_nil] at hread

/-- The lexemes of the tokens of a layout are its lexemes. -/
theorem Layout.map_lexeme_tokens (config : Config) (layout : Layout) :
    (layout.tokens config).map Token.lexeme = layout.lexemes := by
  rw [Layout.tokens, List.map_map]
  exact (List.map_congr_left fun l _ => token_lexeme config l).trans (List.map_id _)

/-- The lexemes that occur are those of the grammar. -/
theorem Lexeme.occurs_iff : Occurs lexeme ↔ IsLexeme lexeme := by
  constructor
  · rintro ⟨config, source, tokens, hread, token, hmem, rfl⟩
    obtain ⟨layout, hwell, -, rfl⟩ := exists_wellFormed_of_tokenize hread
    refine hwell.isLexeme ?_
    rw [← layout.map_lexeme_tokens config]
    exact List.mem_map_of_mem hmem
  · intro h
    exact ⟨{}, lexeme, _, tokenize_of_isLexeme {} h, _, List.mem_singleton_self _,
      token_lexeme {} lexeme⟩

/-- A spaced layout that is read as its tokens is well formed. -/
theorem Layout.wellFormed_of_tokenize (h : layout.Spaced)
    (hread : tokenize config layout.text = .ok (layout.tokens config)) : layout.WellFormed := by
  obtain ⟨other, hwell, htext, htokens⟩ := exists_wellFormed_of_tokenize hread
  have hlexemes : layout.lexemes = other.lexemes := by
    rw [← layout.map_lexeme_tokens config, ← htokens, other.map_lexeme_tokens config]
  -- the same lexemes in the same text leave no choice for the gaps
  rw [Layout.eq_of_lexemes_eq h hwell.spaced hlexemes htext.symm]
  exact hwell

/-- Lexemes side by side, with any blanks around them, are read as the tokens that they are
read as alone exactly when no empty gap stands between two that glue. -/
theorem tokenize_text_iff_separated (config : Config) (layout : Layout)
    (hgaps : ∀ piece ∈ layout.pieces, IsGap piece.1) (hending : IsGap layout.ending)
    (hoccurs : ∀ lexeme ∈ layout.lexemes, Occurs lexeme) :
    (∃ alone, layout.lexemes.mapM (tokenize config) = .ok alone ∧
      tokenize config layout.text = .ok alone.flatten) ↔ layout.Separated := by
  have hspaced : layout.Spaced := by
    refine ⟨fun piece hpiece => ⟨hgaps piece hpiece, occurs_iff.1 (hoccurs _ ?_)⟩, hending⟩
    exact List.mem_map_of_mem hpiece
  have halone : layout.lexemes.mapM (tokenize config) =
      .ok (layout.lexemes.map fun lexeme => [Lexeme.token config lexeme]) :=
    mapM_eq_ok_map fun lexeme hmem => tokenize_of_isLexeme config (occurs_iff.1 (hoccurs _ hmem))
  have hflatten : (layout.lexemes.map fun lexeme => [Lexeme.token config lexeme]).flatten =
      layout.tokens config := by
    rw [← List.flatMap_def, ← List.map_eq_flatMap, Layout.tokens]
  rw [← hspaced.wellFormed_iff_separated, halone]
  constructor
  · rintro ⟨alone, heq, hread⟩
    obtain rfl := Except.ok.inj heq
    exact Layout.wellFormed_of_tokenize hspaced (hflatten ▸ hread)
  · intro hwell
    exact ⟨_, rfl, hflatten ▸ tokenize_of_wellFormed config hwell⟩

/-- A numeral before a word and a numeral after it, with no blank between them. -/
theorem tokenize_text_iff_separated_numeral_word :
    let layout : Layout := ⟨[([' '], ['2']), ([], ['x']), ([], ['.', '5'])], ['\n']⟩
    (∀ piece ∈ layout.pieces, IsGap piece.1) ∧ IsGap layout.ending ∧
      (∀ lexeme ∈ layout.lexemes, Occurs lexeme) ∧
      ((∃ alone, layout.lexemes.mapM (tokenize {}) = .ok alone ∧
        tokenize {} layout.text = .ok alone.flatten) ↔ layout.Separated) := by
  intro layout
  have hgaps : ∀ piece ∈ layout.pieces, IsGap piece.1 := by decide
  have hending : IsGap layout.ending := by decide
  have hlexemes : ∀ lexeme ∈ layout.lexemes, IsLexeme lexeme := by decide
  have hoccurs : ∀ lexeme ∈ layout.lexemes, Occurs lexeme :=
    fun lexeme hmem => occurs_iff.2 (hlexemes lexeme hmem)
  exact ⟨hgaps, hending, hoccurs, tokenize_text_iff_separated {} layout hgaps hending hoccurs⟩

end LogicLexer
