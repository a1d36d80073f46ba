import LogicLexer.Proofs.RoundTrip

/-!
# Writing tokens under one configuration and reading them under another

Tokens that have been read are written as lexemes under any configuration, and these are
read under any other one, each where it was written. Three tables of aliases have a say in
what is read: the one of the first reading, that of the writing and that of the second
reading. Numbers and symbols with a spelling of their own come back, a word is looked up
anew, and a keyword that has nothing but its alias comes back only if the alias is written
and read in the same direction.

## Main definitions

* `Symbol.hasSpelling` — a symbol that can be written without an alias
* `Meaning.RereadAs` — what a meaning may come back as

## Main results

* `Token.rereadAs_of_lexable` — what one token comes back as
* `Token.agrees_iff_of_rereadAs` — when a token comes back with its meaning
* `reread_of_tokenize` — what the tokens of a text come back as
-/

namespace LogicLexer

open Lexeme

variable {config written read : Config}

/-- The symbol can be written under every configuration without an alias. -/
def Symbol.hasSpelling (symbol : Symbol) : Bool :=
  spellings.any fun entry => entry.2 = .symbol symbol

/-- What a meaning that is written under one configuration may come back as when it is read
under another. A number comes back as it is and a word is looked up. A symbol comes back if it
has a spelling or the aliases are the same, and otherwise its alias is read as a word. -/
def Meaning.RereadAs (written read : Config) : Meaning → Meaning → Prop
  | .number value, found => found = .number value
  | .identifier text, found => found = (read.resolve text).meaning
  | .symbol s, found =>
    if s.hasSpelling = true ∨ written.naturalKeywords.isOn = read.naturalKeywords.isOn then
      found = .symbol s
    else ∃ text, (text, .symbol s) ∈ written.aliasStyle.aliases ∧ found = .identifier text

/-! ### Preferred texts under two configurations -/

/-- The three symbols that have nothing but their alias. -/
theorem Symbol.hasSpelling_eq_false_iff (symbol : Symbol) :
    symbol.hasSpelling = false ↔ symbol = .type ∨ symbol = .typeof ∨ symbol = .val := by
  cases symbol <;> decide

/-- The aliases depend on whether the setting is on. -/
theorem Config.aliasStyle_eq_iff : written.aliasStyle = read.aliasStyle ↔
    written.naturalKeywords.isOn = read.naturalKeywords.isOn := by
  unfold aliasStyle
  cases written.naturalKeywords.isOn <;> cases read.naturalKeywords.isOn <;> simp

namespace AliasStyle

/-- A spelling is the preferred text of its symbol in either direction, and stands for it. -/
theorem lookup_canonical_of_hasSpelling (written read : AliasStyle) {symbol : Symbol}
    (h : symbol.hasSpelling = true) :
    read.vocabulary.lookup (written.canonical symbol) = some (.symbol symbol) := by
  revert h
  cases written <;> cases read <;> cases symbol <;> decide

/-- A symbol without a spelling is written as its alias. -/
theorem canonical_mem_aliases (style : AliasStyle) {symbol : Symbol}
    (h : symbol.hasSpelling = false) : (style.canonical symbol, .symbol symbol) ∈ style.aliases := by
  rcases symbol.hasSpelling_eq_false_iff.1 h with rfl | rfl | rfl <;> cases style <;> decide

/-- An alias that is no spelling stands for nothing in the other direction. -/
theorem lookup_canonical_eq_none {written read : AliasStyle} (hne : written ≠ read)
    {symbol : Symbol} (h : symbol.hasSpelling = false) :
    read.vocabulary.lookup (written.canonical symbol) = none := by
  revert hne
  rcases symbol.hasSpelling_eq_false_iff.1 h with rfl | rfl | rfl <;> cases written <;>
    cases read <;> decide

end AliasStyle

/-! ### One token -/

namespace Token

/-- An identifier that has been read is no numeral, and it stands for a symbol exactly if it
is an alias. -/
theorem of_lexable_identifier {other : Config} {text lexeme : Text}
    (h : Lexable other ⟨.identifier text, lexeme⟩) (config : Config) :
    ¬ IsNumeral text ∧
      (config.kindOf? text = none ↔ text ∉ config.aliasStyle.aliases.map Prod.fst) := by
  rcases h with rfl | ⟨hword, -⟩
  · refine ⟨by decide, iff_of_true ?_ ?_⟩
    · exact (Config.kindOf?_eq_none_iff_of_isSymbol isSymbol_equals).2 rfl
    · cases config.aliasStyle <;> decide
  · exact ⟨not_isNumeral_of_isWord hword, Config.kindOf?_eq_none_iff_of_isWord hword⟩

/-- What a token that has been read comes back as. -/
theorem rereadAs_of_lexable {other : Config} {token : Token} (h : token.Lexable other)
    {lexeme : Text} (hcanonical : token.canonical written = .ok lexeme) :
    token.meaning.RereadAs written read (Lexeme.token read lexeme).meaning := by
  obtain ⟨meaning, source⟩ := token
  cases meaning with
  | identifier text =>
    obtain rfl := Except.ok.inj hcanonical
    exact congrArg Token.meaning (token_of_not_isNumeral read (of_lexable_identifier h read).1)
  | number value =>
    obtain ⟨hwhole, hfrac⟩ := h
    obtain ⟨text, hprint, -, htoken⟩ := exists_print_of_nonneg read hwhole hfrac
    obtain rfl := Except.ok.inj ((congrArg (Except.mapError _) hprint).symm.trans hcanonical)
    exact congrArg Token.meaning htoken
  | symbol s =>
    obtain rfl := Except.ok.inj hcanonical
    have hmem := written.aliasStyle.canonical_mem s
    rw [token_of_not_isNumeral read (AliasStyle.isLexeme_of_mem_vocabulary hmem).2,
      Meaning.RereadAs]
    by_cases hsame : s.hasSpelling = true ∨
        written.naturalKeywords.isOn = read.naturalKeywords.isOn
    · have hlookup : read.kindOf? (written.aliasStyle.canonical s) = some (.symbol s) := by
        rcases hsame with hspelling | hon
        · exact AliasStyle.lookup_canonical_of_hasSpelling _ _ hspelling
        · rw [Config.aliasStyle_eq_iff.2 hon]
          exact read.aliasStyle.lookup_canonical s
      rw [if_pos hsame, Config.resolve_of_eq_some hlookup]
      rfl
    · -- the alias is read in the other direction, where it is a word
      obtain ⟨hspelling, hon⟩ := not_or.1 hsame
      have hspelling := eq_false_of_ne_true hspelling
      have hstyle := mt Config.aliasStyle_eq_iff.1 hon
      rw [if_neg hsame]
      refine ⟨_, AliasStyle.canonical_mem_aliases _ hspelling, ?_⟩
      rw [Config.resolve_of_eq_none (AliasStyle.lookup_canonical_eq_none hstyle hspelling)]
      rfl

/-- Under one configuration a token that has been read comes back with its meaning unless it
is an identifier spelled like an alias. -/
theorem agrees_iff_of_rereadAs {other : Config} {token found : Token}
    (h : token.meaning.RereadAs config config found.meaning) (hlexable : token.Lexable other) :
    found.agrees token = true ↔ ∀ text, token.meaning = .identifier text →
      text ∉ config.aliasStyle.aliases.map Prod.fst := by
  rw [agrees_iff]
  obtain ⟨meaning, source⟩ := token
  cases meaning with
  | identifier text =>
    have hfound : found.meaning = (config.resolve text).meaning := h
    have hresolve : (config.resolve text).meaning = .identifier text ↔
        config.kindOf? text = none := by
      rcases config.kindOf?_eq text with hnone | ⟨s, hsome⟩
      · simp [hnone, Config.resolve_of_eq_none hnone, Token.identifier]
      · simp [hsome, Config.resolve_of_eq_some hsome, Token.symbol]
    rw [hfound, hresolve, (of_lexable_identifier hlexable config).2]
    simp
  | number value =>
    have hfound : found.meaning = .number value := h
    simp [hfound]
  | symbol s =>
    have hfound : found.meaning = .symbol s := by simpa [Meaning.RereadAs] using h
    simp [hfound]

end Token

/-! ### All tokens of a text -/

variable {text : Text} {tokens found : List Token}

/-- Lexable tokens come back token by token, each as what its meaning may come back as. -/
theorem tokenize_render_rereadAs {other : Config} (h : ∀ token ∈ tokens, token.Lexable other)
    (written read : Config) : ∃ text found, render written tokens = .ok text ∧
      tokenize read text = .ok found ∧
      List.Forall₂ (fun token found => token.meaning.RereadAs written read found.meaning)
        tokens found := by
  obtain ⟨text, lexemes, hrender, hcanonical, hread⟩ := tokenize_render_of_lexable h written read
  refine ⟨text, _, hrender, hread, ?_⟩
  rw [List.forall₂_map_right_iff]
  clear hrender hread
  induction hcanonical with
  | nil => exact .nil
  | cons hlexeme _ ih =>
    obtain ⟨htoken, htokens⟩ := List.forall_mem_cons.1 h
    exact .cons (Token.rereadAs_of_lexable htoken hlexeme) (ih htokens)

/-- Under one configuration tokens come back with their meanings exactly if no identifier
among them is spelled like an alias. -/
theorem forall₂_agrees_iff {other : Config} (hlexable : ∀ token ∈ tokens, token.Lexable other)
    (h : List.Forall₂ (fun token found => token.meaning.RereadAs config config found.meaning)
      tokens found) :
    List.Forall₂ (fun left right => left.agrees right = true) found tokens ↔
      ∀ token ∈ tokens, ∀ text, token.meaning = .identifier text →
        text ∉ config.aliasStyle.aliases.map Prod.fst := by
  induction h with
  | nil => simp
  | cons htoken _ ih =>
    obtain ⟨hfirst, hrest⟩ := List.forall_mem_cons.1 hlexable
    rw [List.forall₂_cons, List.forall_mem_cons, ih hrest,
      Token.agrees_iff_of_rereadAs htoken hfirst]

/-- The tokens of a text can be written under any configuration and read under any other. As
many come back, and each is what its meaning may come back as. If the two configurations are
the same, the tokens come back exactly if no identifier among them is spelled like an alias. -/
theorem reread_of_tokenize (h : tokenize config text = .ok tokens) :
    (∀ written read : Config, ∃ rendered found, render written tokens = .ok rendered ∧
      tokenize read rendered = .ok found ∧
      List.Forall₂ (fun token found => token.meaning.RereadAs written read found.meaning)
        tokens found) ∧
    ∀ same : Config, RoundTrips same tokens ↔
      ∀ token ∈ tokens, ∀ text, token.meaning = .identifier text →
        text ∉ same.aliasStyle.aliases.map Prod.fst := by
  have hlexable := lexable_of_tokenize h
  refine ⟨tokenize_render_rereadAs hlexable, fun same => ?_⟩
  obtain ⟨rendered, found, hrender, hread, hreread⟩ := tokenize_render_rereadAs hlexable same same
  rw [← forall₂_agrees_iff hlexable hreread]
  constructor
  · rintro ⟨rendered', hrender', found', hread', hagrees⟩
    -- what is written and what is read are determined by the tokens
    obtain rfl := Except.ok.inj (hrender.symm.trans hrender')
    obtain rfl := Except.ok.inj (hread.symm.trans hread')
    exact hagrees
  · intro hagrees
    exact ⟨rendered, hrender, found, hread, hagrees⟩

/-- A keyword that has nothing but its alias, and a word that is an alias in the other
direction. -/
theorem reread_of_tokenize_keyword_word :
    let text : Text := ['e', 'p', 'y', 't', ' ', 't', 'y', 'p', 'e']
    let tokens : List Token :=
      [.symbol .type ['e', 'p', 'y', 't'], .identifier ['t', 'y', 'p', 'e']]
    tokenize {} text = .ok tokens ∧
      (∀ written read : Config, ∃ rendered found, render written tokens = .ok rendered ∧
        tokenize read rendered = .ok found ∧
        List.Forall₂ (fun token found => token.meaning.RereadAs written read found.meaning)
          tokens found) ∧
      ∀ same : Config, RoundTrips same tokens ↔
        ∀ token ∈ tokens, ∀ text, token.meaning = .identifier text →
          text ∉ same.aliasStyle.aliases.map Prod.fst := by
  intro text tokens
  have hlexemes : ∀ lexeme ∈ ([['e', 'p', 'y', 't'], ['t', 'y', 'p', 'e']] : List Text),
      IsLexeme lexeme := by
    decide
  have hread : tokenize {} text = .ok tokens := tokenize_intercalate {} hlexemes
  exact ⟨hread, reread_of_tokenize hread⟩

end LogicLexer
