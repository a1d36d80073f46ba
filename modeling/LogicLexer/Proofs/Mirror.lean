import LogicLexer.Proofs.Vocabulary
import LogicLexer.Proofs.Grammar.Replacement
import LogicLexer.Proofs.Tokenize.Recovered

/-!
# Mirrored texts

The aliases are spelled forwards under one half of the configurations and backwards under the
other half. A text is mirrored by reversing its aliases in place, those of either direction,
and by keeping everything else. Under opposite configurations a text and its mirror image are
read as the same tokens at the same places, but for the words that are aliases in the direction
that is not in force: these are words in the mirror image as well, and reversed.

## Main definitions

* `AliasStyle.opposite` — the other direction
* `Lexeme.IsAlias`, `Lexeme.mirror` — an alias of either direction, and its mirror image
* `Meaning.mirror`, `Token.mirror` — what becomes of a token
* `mirror` — the mirror image of a text

## Main results

* `AliasStyle.lookup_reverse` — an alias stands for what its reversal stands for in the other
  direction
* `Lexeme.token_mirror` — the token of a mirrored lexeme
* `mirror_text` — a well-formed layout is mirrored lexeme by lexeme
* `tokenize_mirror` — texts and their mirror images under opposite configurations
-/

namespace LogicLexer

open Lexeme

variable {config left right : Config} {text : Text} {layout : Layout}

namespace AliasStyle

/-- The other direction. -/
def opposite : AliasStyle → AliasStyle
  | natural => reversed
  | reversed => natural

end AliasStyle

namespace Lexeme

/-- The text is an alias in one of the two directions. -/
def IsAlias (text : Text) : Prop :=
  ∃ style : AliasStyle, text ∈ style.aliases.map Prod.fst

instance (text : Text) : Decidable (IsAlias text) :=
  decidable_of_iff (text ∈ AliasStyle.natural.aliases.map Prod.fst ∨
    text ∈ AliasStyle.reversed.aliases.map Prod.fst)
    ⟨fun h => h.elim (⟨.natural, ·⟩) (⟨.reversed, ·⟩),
      fun ⟨style, h⟩ => by cases style with
        | natural => exact .inl h
        | reversed => exact .inr h⟩

/-- An alias of either direction is reversed, and any other lexeme is kept. -/
def mirror (text : Text) : Text :=
  if IsAlias text then text.reverse else text

end Lexeme

/-- What becomes of a meaning: a word that is an alias is reversed, and everything else is
kept. -/
def Meaning.mirror : Meaning → Meaning
  | identifier text => identifier (Lexeme.mirror text)
  | number value => number value
  | symbol s => symbol s

/-- What becomes of a token. -/
def Token.mirror (token : Token) : Token :=
  ⟨token.meaning.mirror, Lexeme.mirror token.lexeme⟩

/-- The text with its aliases reversed in place. Where a token lies and what its lexeme is does
not depend on the configuration, so any of them will do. -/
def mirror (text : Text) : Text :=
  (((pass {} text.toArray 0).layout text.toArray).mapLexemes Lexeme.mirror).text

/-! ### Aliases in the two directions -/

theorem lookup_map_reverse (entries : List (Text × Kind)) (text : Text) :
    (entries.map fun entry => (entry.1.reverse, entry.2)).lookup text.reverse =
      entries.lookup text := by
  induction entries with
  | nil => rfl
  | cons entry rest ih =>
    have hkey : (text.reverse == entry.1.reverse) = (text == entry.1) := by
      rw [Bool.eq_iff_iff, beq_iff_eq, beq_iff_eq, List.reverse_inj]
    rw [List.map_cons, List.lookup_cons, ih, hkey, ← List.lookup_cons]

/-- An alias stands for what its reversal stands for in the other direction, and only aliases
become aliases. -/
theorem AliasStyle.lookup_reverse (style : AliasStyle) (text : Text) :
    style.opposite.aliases.lookup text.reverse = style.aliases.lookup text := by
  cases style with
  | natural => exact lookup_map_reverse naturalAliases text
  | reversed =>
    have hlookup := lookup_map_reverse naturalAliases text.reverse
    rw [List.reverse_reverse] at hlookup
    exact hlookup.symm

/-- Configurations that differ in whether the setting is on spell the aliases in opposite
directions. -/
theorem Config.aliasStyle_eq_opposite
    (h : left.naturalKeywords.isOn ≠ right.naturalKeywords.isOn) :
    right.aliasStyle = left.aliasStyle.opposite := by
  unfold aliasStyle
  cases hleft : left.naturalKeywords.isOn <;> cases hright : right.naturalKeywords.isOn <;>
    simp_all [AliasStyle.opposite]

namespace Lexeme

theorem IsAlias.isWord (h : IsAlias text) : IsWord text := by
  obtain ⟨style, hmem⟩ := h
  obtain ⟨entry, hentry, rfl⟩ := List.mem_map.1 hmem
  exact style.isWord_of_mem_aliases entry hentry

theorem IsAlias.reverse (h : IsAlias text) : IsAlias text.reverse := by
  obtain ⟨style, hmem⟩ := h
  refine ⟨style.opposite, Classical.not_not.1 fun hnot => ?_⟩
  rw [← lookup_eq_none_iff_not_mem, style.lookup_reverse, lookup_eq_none_iff_not_mem] at hnot
  exact hnot hmem

theorem mirror_of_isAlias (h : IsAlias text) : mirror text = text.reverse :=
  if_pos h

theorem mirror_of_not_isAlias (h : ¬ IsAlias text) : mirror text = text :=
  if_neg h

/-- A lexeme mirrored twice is the lexeme again. -/
theorem mirror_mirror (text : Text) : mirror (mirror text) = text := by
  by_cases h : IsAlias text
  · rw [mirror_of_isAlias h, mirror_of_isAlias h.reverse, List.reverse_reverse]
  · rw [mirror_of_not_isAlias h, mirror_of_not_isAlias h]

theorem length_mirror (text : Text) : (mirror text).length = text.length := by
  by_cases h : IsAlias text
  · rw [mirror_of_isAlias h, List.length_reverse]
  · rw [mirror_of_not_isAlias h]

/-- A mirrored lexeme may stand in place of the lexeme: both are words if they differ. -/
theorem mayReplace_mirror (text : Text) : MayReplace text (mirror text) := by
  by_cases h : IsAlias text
  · rw [mirror_of_isAlias h]
    exact .inr ⟨h.isWord, h.reverse.isWord⟩
  · exact .inl (mirror_of_not_isAlias h)

/-- Unless it is an alias, a lexeme has a token that is its own mirror image. -/
theorem mirror_token_of_not_isAlias (config : Config) (h : ¬ IsAlias text) :
    (token config text).mirror = token config text := by
  have hmirror := mirror_of_not_isAlias h
  rw [token]
  split
  · exact congrArg (Token.mk _) hmirror
  · rcases config.resolve_eq text with hword | ⟨symbol, hsymbol⟩
    · rw [hword, Token.identifier, Token.mirror, Meaning.mirror, hmirror]
    · rw [hsymbol]
      exact congrArg (Token.mk _) hmirror

/-- Under the opposite configuration the token of a mirrored lexeme is the mirrored token. -/
theorem token_mirror (h : left.naturalKeywords.isOn ≠ right.naturalKeywords.isOn) (text : Text) :
    token right (mirror text) = (token left text).mirror := by
  by_cases halias : IsAlias text
  · have hmirror := mirror_of_isAlias halias
    have hkind : right.kindOf? text.reverse = left.kindOf? text := by
      rw [Config.kindOf?_of_isWord halias.reverse.isWord, Config.kindOf?_of_isWord halias.isWord,
        Config.aliasStyle_eq_opposite h, AliasStyle.lookup_reverse]
    rw [hmirror, token_of_not_isNumeral right (not_isNumeral_of_isWord halias.reverse.isWord),
      token_of_not_isNumeral left (not_isNumeral_of_isWord halias.isWord)]
    -- the lexeme and its reversal stand for the same symbol, or for themselves
    rcases left.kindOf?_eq text with hnone | ⟨symbol, hsome⟩
    · rw [Config.resolve_of_eq_none hnone, Config.resolve_of_eq_none (hkind.trans hnone),
        Token.identifier, Token.identifier, Token.mirror, Meaning.mirror, hmirror]
    · rw [Config.resolve_of_eq_some hsome, Config.resolve_of_eq_some (hkind.trans hsome)]
      exact congrArg (Token.mk _) hmirror.symm
  · rw [mirror_of_not_isAlias halias, mirror_token_of_not_isAlias left halias]
    exact Classical.not_not.1 fun hne => halias (exists_alias_of_token_ne hne)

end Lexeme

/-! ### Texts -/

/-- A well-formed layout is mirrored lexeme by lexeme. -/
theorem mirror_text (h : layout.WellFormed) :
    mirror layout.text = (layout.mapLexemes Lexeme.mirror).text := by
  rw [mirror, layout_pass_of_wellFormed {} h]

theorem Layout.mapLexemes_mirror_mirror (layout : Layout) :
    (layout.mapLexemes Lexeme.mirror).mapLexemes Lexeme.mirror = layout := by
  have hmirror : Lexeme.mirror ∘ Lexeme.mirror = id := funext Lexeme.mirror_mirror
  rw [mapLexemes_mapLexemes, hmirror, mapLexemes_id]

/-- Under the opposite configuration a mirrored layout has the mirrored tokens. -/
theorem Layout.tokens_mapLexemes_mirror
    (h : left.naturalKeywords.isOn ≠ right.naturalKeywords.isOn) (layout : Layout) :
    (layout.mapLexemes Lexeme.mirror).tokens right = (layout.tokens left).map Token.mirror := by
  rw [tokens, tokens, lexemes_mapLexemes, List.map_map, List.map_map]
  exact List.map_congr_left fun text _ => token_mirror h text

/-- A text that is read comes back when it is mirrored twice. Under opposite configurations the
text and its mirror image are read as tokens that lie at the same places, and each token of the
mirror image is the mirrored token of the text. -/
theorem tokenize_mirror {tokens : List Token} (h : tokenize config text = .ok tokens) :
    mirror (mirror text) = text ∧
      ∀ left right : Config, left.naturalKeywords.isOn ≠ right.naturalKeywords.isOn →
        ∃ found, tokenize left text = .ok found ∧
          tokenize right (mirror text) = .ok (found.map Token.mirror) ∧
          (pass right (mirror text).toArray 0).spans = (pass left text.toArray 0).spans := by
  obtain ⟨layout, hwell, rfl, -⟩ := exists_wellFormed_of_tokenize h
  have hmirrored := hwell.mapLexemes mayReplace_mirror
  rw [mirror_text hwell, mirror_text hmirrored, Layout.mapLexemes_mirror_mirror]
  refine ⟨rfl, fun left right hopposite => ⟨_, tokenize_of_wellFormed left hwell, ?_, ?_⟩⟩
  · rw [tokenize_of_wellFormed right hmirrored, Layout.tokens_mapLexemes_mirror hopposite]
  · rw [spans_pass_of_wellFormed right hmirrored, spans_pass_of_wellFormed left hwell,
      Layout.spans_mapLexemes length_mirror]

/-- An alias between two numerals without any blank, and behind them a word that is an alias in
the other direction. -/
theorem tokenize_mirror_between_numerals :
    let text : Text := ['2', 'd', 'n', 'a', '.', '5', ' ', 'a', 'n', 'd']
    let tokens : List Token := [.number 2 0 ['2'], .symbol .conjunction ['d', 'n', 'a'],
      .number 0 5 ['.', '5'], .identifier ['a', 'n', 'd']]
    tokenize {} text = .ok tokens ∧
      mirror text = ['2', 'a', 'n', 'd', '.', '5', ' ', 'd', 'n', 'a'] ∧
      mirror (mirror text) = text ∧
      ∀ left right : Config, left.naturalKeywords.isOn ≠ right.naturalKeywords.isOn →
        ∃ found, tokenize left text = .ok found ∧
          tokenize right (mirror text) = .ok (found.map Token.mirror) ∧
          (pass right (mirror text).toArray 0).spans = (pass left text.toArray 0).spans := by
  intro text tokens
  let layout : Layout := ⟨[([], ['2']), ([], ['d', 'n', 'a']), ([], ['.', '5']),
    ([' '], ['a', 'n', 'd'])], []⟩
  have hwell : layout.WellFormed := by decide
  have hread : tokenize {} text = .ok tokens := tokenize_of_wellFormed {} hwell
  have hmirror : mirror text = (layout.mapLexemes Lexeme.mirror).text := mirror_text hwell
  have himage : (layout.mapLexemes Lexeme.mirror).text =
      ['2', 'a', 'n', 'd', '.', '5', ' ', 'd', 'n', 'a'] := by decide
  exact ⟨hread, hmirror.trans himage, tokenize_mirror hread⟩

end LogicLexer
