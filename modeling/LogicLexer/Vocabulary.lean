import LogicLexer.Config
import LogicLexer.Token.Basic

/-!
# Vocabulary

The texts that stand for kinds of tokens. Most symbols have a spelling of their own, the
arrow has two, and seven symbols have an ASCII alias that is spelled forwards or
backwards by configuration. Two of the aliases stand for symbols that have a spelling of
their own as well, and three symbols have nothing but their alias. No text stands for a
kind that carries a value, so looking a text up never fails.

## Main definitions

* `spellings` — the texts that stand for a kind under every configuration
* `AliasStyle.aliases` — the aliases in one direction
* `Config.vocabulary` — all texts that stand for a kind
* `Config.kindOf?` — the kind that a text stands for
* `Config.resolved`, `Config.resolve` — the token of a text
* `AliasStyle.canonical` — the preferred text of a symbol

## Main results

* `AliasStyle.canonical_mem` — every symbol has a preferred text
* `Config.kindOf?_eq` — a text stands for a symbol or for nothing
* `Config.resolved_eq` — every text has a token
-/

namespace LogicLexer

-- The order matters: the arrow is preferred in its first spelling, and any spelling here is
-- preferred to an alias.
/-- The texts that stand for a kind under every configuration, the preferred one of a
kind first. -/
def spellings : List (Text × Kind) :=
  [(['∀'], .symbol .universal), (['∃'], .symbol .existential), (['→'], .symbol .arrow),
   (['∧'], .symbol .conjunction), (['∨'], .symbol .disjunction), (['⊥'], .symbol .bottom),
   (['¬'], .symbol .negation), (['-', '>'], .symbol .arrow), (['+'], .symbol .add),
   (['-'], .symbol .sub), (['*'], .symbol .mul), (['/'], .symbol .div), (['%'], .symbol .mod),
   (['<'], .symbol .less), (['>'], .symbol .greater), (['('], .symbol .leftParen),
   ([')'], .symbol .rightParen), (['['], .symbol .leftBracket), ([']'], .symbol .rightBracket),
   ([','], .symbol .comma), ([':'], .symbol .colon)]

/-- The ASCII aliases, spelled forwards. -/
def naturalAliases : List (Text × Kind) :=
  [(['f', 'o', 'r', 'a', 'l', 'l'], .symbol .universal),
   (['e', 'x', 'i', 's', 't', 's'], .symbol .existential),
   (['a', 'n', 'd'], .symbol .conjunction), (['o', 'r'], .symbol .disjunction),
   (['t', 'y', 'p', 'e'], .symbol .type), (['t', 'y', 'p', 'e', 'o', 'f'], .symbol .typeof),
   (['v', 'a', 'l'], .symbol .val)]

namespace AliasStyle

/-- The ASCII aliases in one direction. -/
def aliases : AliasStyle → List (Text × Kind)
  | natural => naturalAliases
  | reversed => naturalAliases.map fun entry => (entry.1.reverse, entry.2)

/-- All texts that stand for a kind in one direction, preferred spellings before aliases. -/
def vocabulary (style : AliasStyle) : List (Text × Kind) :=
  spellings ++ style.aliases

/-- Every symbol has a spelling or an alias. -/
theorem isSome_find_vocabulary (style : AliasStyle) (symbol : Symbol) :
    (style.vocabulary.find? fun entry => entry.2 = .symbol symbol).isSome = true := by
  cases style <;> cases symbol <;> rfl

/-- The preferred text of a symbol: the first of the vocabulary that stands for it. -/
def canonical (style : AliasStyle) (symbol : Symbol) : Text :=
  ((style.vocabulary.find? fun entry => entry.2 = .symbol symbol).get
    (style.isSome_find_vocabulary symbol)).1

/-- The preferred text of a symbol stands for it. -/
theorem canonical_mem (style : AliasStyle) (symbol : Symbol) :
    (style.canonical symbol, .symbol symbol) ∈ style.vocabulary := by
  cases style <;> cases symbol <;> decide

/-- No text stands for a kind that carries a value. -/
theorem carriesValue_of_mem_vocabulary (style : AliasStyle) :
    ∀ entry ∈ style.vocabulary, entry.2.carriesValue = false := by
  cases style <;> decide

end AliasStyle

namespace Config

/-- All texts that stand for a kind under the configuration. -/
def vocabulary (config : Config) : List (Text × Kind) :=
  config.aliasStyle.vocabulary

/-- The kind that a text stands for under the configuration. -/
def kindOf? (config : Config) (text : Text) : Option Kind :=
  config.vocabulary.lookup text

/-- The token of the kind that a text stands for, or else of a word that names itself. -/
def resolved (config : Config) (text : Text) : Except Failure Token :=
  match config.kindOf? text with
  | some kind => Token.ofKind kind text
  | none => .ok (.identifier text)

/-- A text stands for a symbol or for nothing. -/
theorem kindOf?_eq (config : Config) (text : Text) :
    config.kindOf? text = none ∨ ∃ symbol, config.kindOf? text = some (.symbol symbol) := by
  cases h : config.kindOf? text with
  | none => exact .inl rfl
  | some kind =>
    -- the kind was found in an entry of the table, so it is one without a value
    obtain ⟨before, after, hsplit, -⟩ := List.lookup_eq_some_iff.1 h
    have hmem : (text, kind) ∈ config.vocabulary :=
      hsplit ▸ List.mem_append_right _ List.mem_cons_self
    have hkind : kind.carriesValue = false :=
      config.aliasStyle.carriesValue_of_mem_vocabulary _ hmem
    cases kind with
    | symbol symbol => exact .inr ⟨symbol, rfl⟩
    | identifier => cases hkind
    | number => cases hkind

theorem exists_resolved (config : Config) (text : Text) :
    ∃ token, config.resolved text = .ok token := by
  unfold resolved
  rcases config.kindOf?_eq text with hnone | ⟨symbol, hsymbol⟩
  · rw [hnone]
    exact ⟨_, rfl⟩
  · rw [hsymbol]
    exact ⟨_, rfl⟩

theorem isSome_toOption_resolved (config : Config) (text : Text) :
    (config.resolved text).toOption.isSome = true := by
  obtain ⟨token, h⟩ := config.exists_resolved text
  rw [h]
  rfl

/-- The token of a text: of the symbol that it stands for, or else of a word that names
itself. -/
def resolve (config : Config) (text : Text) : Token :=
  (config.resolved text).toOption.get (config.isSome_toOption_resolved text)

/-- The token of a text is found without a failure. -/
theorem resolved_eq (config : Config) (text : Text) :
    config.resolved text = .ok (config.resolve text) := by
  obtain ⟨token, h⟩ := config.exists_resolved text
  simp only [resolve, h]
  rfl

/-- A text that stands for nothing is a word that names itself. -/
theorem resolve_of_eq_none {config : Config} {text : Text} (h : config.kindOf? text = none) :
    config.resolve text = .identifier text := by
  have hresolved : config.resolved text = .ok (.identifier text) := by rw [resolved, h]
  exact Except.ok.inj ((config.resolved_eq text).symm.trans hresolved)

theorem resolve_of_eq_some {config : Config} {text : Text} {symbol : Symbol}
    (h : config.kindOf? text = some (.symbol symbol)) :
    config.resolve text = .symbol symbol text := by
  have hresolved : config.resolved text = .ok (.symbol symbol text) := by
    rw [resolved, h]
    rfl
  exact Except.ok.inj ((config.resolved_eq text).symm.trans hresolved)

/-- A text means itself as a word, or else a symbol. -/
theorem resolve_eq (config : Config) (text : Text) :
    config.resolve text = .identifier text ∨
      ∃ symbol, config.resolve text = .symbol symbol text :=
  (config.kindOf?_eq text).imp resolve_of_eq_none
    fun ⟨symbol, hsymbol⟩ => ⟨symbol, resolve_of_eq_some hsymbol⟩

/-- The text stands for a symbol and cannot be an identifier. -/
def isReserved (config : Config) (text : Text) : Bool :=
  (config.resolve text).kind != .identifier

end Config

end LogicLexer
