import LogicLexer.Render
import LogicLexer.Proofs.Numeral.Printing
import LogicLexer.Proofs.Grammar.Numeral

/-!
# What the vocabulary says of lexemes

The spellings are symbols and the aliases are words, in either direction. So a word has
another meaning only as an alias, and of the symbols the equals sign alone has none. The
tokens that lexemes have are therefore the lexable ones, and each of these is written as
a lexeme again, which has the same meaning.

## Main results

* `AliasStyle.lookup_canonical` — the preferred text of a symbol stands for it
* `Config.kindOf?_eq_none_iff_of_isWord`, `Config.kindOf?_eq_none_iff_of_isSymbol` — the
  lexemes that stand for nothing
* `Lexeme.isAliasUnder_iff` — the aliases that a configuration selects are those of its table
* `Config.resolve_eq_of_not_alias`, `Lexeme.exists_alias_of_token_ne` — only an alias
  depends on the configuration
* `Lexeme.kind_token_eq_number_iff` — the lexemes of numbers
* `Lexeme.lexable_token` — the token of a lexeme is lexable
* `Token.exists_canonical_of_lexable` — a lexable token is written as a lexeme, under any
  configuration
* `Token.meaning_token_canonical` — what a lexable token is written as has its meaning
-/

namespace LogicLexer

open Lexeme

variable {config : Config} {text : Text}

/-! ### Spellings and aliases -/

theorem isSymbol_equals : IsSymbol ['='] := by decide

theorem isSymbol_of_mem_spellings : ∀ entry ∈ spellings, IsSymbol entry.1 := by
  decide

namespace AliasStyle

theorem isWord_of_mem_aliases (style : AliasStyle) : ∀ entry ∈ style.aliases, IsWord entry.1 := by
  cases style <;> decide

/-- Every text of the vocabulary is a lexeme that is no numeral. -/
theorem isLexeme_of_mem_vocabulary {style : AliasStyle} {entry : Text × Kind}
    (h : entry ∈ style.vocabulary) : IsLexeme entry.1 ∧ ¬ IsNumeral entry.1 := by
  rcases List.mem_append.1 h with hspelling | halias
  · have hsymbol := isSymbol_of_mem_spellings entry hspelling
    exact ⟨.inr (.inr hsymbol), fun hnumeral => not_isSymbol_of_isNumeral hnumeral hsymbol⟩
  · have hword := style.isWord_of_mem_aliases entry halias
    exact ⟨.inl hword, not_isNumeral_of_isWord hword⟩

/-- The preferred text of a symbol stands for it. -/
theorem lookup_canonical (style : AliasStyle) (symbol : Symbol) :
    style.vocabulary.lookup (style.canonical symbol) = some (.symbol symbol) := by
  cases style <;> cases symbol <;> decide

end AliasStyle

theorem lookup_eq_none_iff_not_mem {entries : List (Text × Kind)} :
    entries.lookup text = none ↔ text ∉ entries.map Prod.fst := by
  simp only [List.lookup_eq_none_iff, List.mem_map, not_exists, not_and, bne_iff_ne]
  exact forall₂_congr fun entry _ => ne_comm

namespace Config

/-- A word is looked up among the aliases, since no spelling is a word. -/
theorem kindOf?_of_isWord (h : IsWord text) :
    config.kindOf? text = config.aliasStyle.aliases.lookup text := by
  have hspelling : spellings.lookup text = none := by
    rw [lookup_eq_none_iff_not_mem]
    intro hmem
    obtain ⟨entry, hentry, rfl⟩ := List.mem_map.1 hmem
    apply not_isSymbol_of_isWord h
    exact isSymbol_of_mem_spellings entry hentry
  rw [kindOf?, vocabulary, AliasStyle.vocabulary, List.lookup_append, hspelling, Option.none_or]

/-- A word stands for a symbol exactly when it is an alias. -/
theorem kindOf?_eq_none_iff_of_isWord (h : IsWord text) :
    config.kindOf? text = none ↔ text ∉ config.aliasStyle.aliases.map Prod.fst := by
  rw [kindOf?_of_isWord h, lookup_eq_none_iff_not_mem]

/-- Of the symbols the equals sign alone stands for nothing. -/
theorem kindOf?_eq_none_iff_of_isSymbol (h : IsSymbol text) :
    config.kindOf? text = none ↔ text = ['='] := by
  have hstyle (style : AliasStyle) : style.vocabulary.lookup text = none ↔ text = ['='] := by
    rcases h with rfl | ⟨c, hc, rfl⟩
    · cases style <;> decide
    · have hchars : symbolChars.all (fun c =>
          decide (style.vocabulary.lookup [c] = none ↔ [c] = ['='])) = true := by
        cases style <;> decide
      exact of_decide_eq_true (List.all_eq_true.1 hchars c hc)
  exact hstyle config.aliasStyle

/-- A text that is no alias in either direction means the same under any two
configurations. -/
theorem resolve_eq_of_not_alias (h : ∀ style : AliasStyle, text ∉ style.aliases.map Prod.fst)
    (left right : Config) : left.resolve text = right.resolve text := by
  have hkind (config : Config) : config.kindOf? text = spellings.lookup text := by
    rw [kindOf?, vocabulary, AliasStyle.vocabulary, List.lookup_append,
      lookup_eq_none_iff_not_mem.2 (h config.aliasStyle), Option.or_none]
  have hresolved : left.resolved text = right.resolved text := by
    rw [resolved, resolved, hkind, hkind]
  rw [resolved_eq, resolved_eq] at hresolved
  exact Except.ok.inj hresolved

end Config

/-- The aliases that a configuration selects are those of its table. -/
theorem Lexeme.isAliasUnder_iff (config : Config) (text : Text) :
    IsAliasUnder config text ↔ text ∈ config.aliasStyle.aliases.map Prod.fst := by
  unfold IsAliasUnder Config.aliasStyle
  cases config.naturalKeywords.isOn with
  | true => exact Iff.rfl
  | false =>
    -- the table of the other direction holds the reversals, and a reversal is undone by another
    have hreversed : AliasStyle.reversed.aliases.map Prod.fst =
        (naturalAliases.map Prod.fst).map List.reverse := rfl
    rw [if_neg Bool.false_ne_true, if_neg Bool.false_ne_true, hreversed]
    constructor
    · intro h
      exact List.mem_map.2 ⟨_, h, List.reverse_reverse text⟩
    · intro h
      obtain ⟨forwards, hforwards, rfl⟩ := List.mem_map.1 h
      rwa [List.reverse_reverse]

/-! ### Tokens and lexemes -/

/-- The token of a lexeme is a number exactly if the lexeme is a numeral. -/
theorem Lexeme.kind_token_eq_number_iff (config : Config) (text : Text) :
    (Lexeme.token config text).kind = .number ↔ IsNumeral text := by
  by_cases hnumeral : IsNumeral text
  · rw [token_of_isNumeral config hnumeral]
    exact iff_of_true rfl hnumeral
  · refine iff_of_false ?_ hnumeral
    rw [token_of_not_isNumeral config hnumeral]
    rcases config.resolve_eq text with hword | ⟨symbol, hsymbol⟩
    · rw [hword]
      exact Kind.noConfusion
    · rw [hsymbol]
      exact Kind.noConfusion

/-- Only the lexeme of an alias can be read as two tokens. -/
theorem Lexeme.exists_alias_of_token_ne {left right : Config}
    (h : Lexeme.token left text ≠ Lexeme.token right text) :
    ∃ style : AliasStyle, text ∈ style.aliases.map Prod.fst := by
  rw [← Classical.not_forall_not]
  intro halias
  apply h
  rw [Lexeme.token, Lexeme.token, Config.resolve_eq_of_not_alias halias left right]

/-- The token of a lexeme is lexable. -/
theorem Lexeme.lexable_token (config : Config) (h : IsLexeme text) :
    (Lexeme.token config text).Lexable config := by
  by_cases hnumeral : IsNumeral text
  · rw [token_of_isNumeral config hnumeral]
    exact ⟨Int.natCast_nonneg _, Int.natCast_nonneg _⟩
  rw [token_of_not_isNumeral config hnumeral]
  rcases config.kindOf?_eq text with hnone | ⟨symbol, hsome⟩
  · rw [Config.resolve_of_eq_none hnone]
    rcases h with hword | hnumeral' | hsymbol
    · exact .inr ⟨hword, fun halias => (Config.kindOf?_eq_none_iff_of_isWord hword).1 hnone
        ((isAliasUnder_iff config text).1 halias)⟩
    · exact absurd hnumeral' hnumeral
    · exact .inl ((Config.kindOf?_eq_none_iff_of_isSymbol hsymbol).1 hnone)
  · rw [Config.resolve_of_eq_some hsome]
    exact trivial

namespace Token

/-- A number that is not negative is written as a numeral of its value. -/
theorem exists_print_of_nonneg (config : Config) {value : NumberValue} (hwhole : 0 ≤ value.whole)
    (hfrac : 0 ≤ value.frac) :
    ∃ lexeme, value.print = .ok lexeme ∧ IsNumeral lexeme ∧
      Lexeme.token config lexeme = .number value.whole value.frac lexeme := by
  obtain ⟨whole, frac⟩ := value
  obtain ⟨m, rfl⟩ := Int.eq_ofNat_of_zero_le hwhole
  obtain ⟨n, rfl⟩ := Int.eq_ofNat_of_zero_le hfrac
  have hdigits (k : Nat) : ∀ c ∈ Nat.toDigits 10 k, isDigit c = true :=
    fun c hc => Numeral.isDigit_of_mem_toDigits hc
  -- a fraction of zero is not written, and a numeral without a point has none
  by_cases hzero : n = 0
  · obtain ⟨hnumeral, htoken⟩ := token_of_digits config (Nat.toDigits_ne_nil (b := 10) (n := m))
      (hdigits m)
    refine ⟨Nat.toDigits 10 m, ?_, hnumeral, ?_⟩
    · simp [NumberValue.print, Numeral.write_natCast, hzero, bind, Except.bind, pure, Except.pure]
    · rw [htoken, Numeral.positional_toDigits, hzero]
      rfl
  · obtain ⟨hnumeral, htoken⟩ := token_of_two_runs config (hdigits m) (hdigits n)
    refine ⟨_, ?_, hnumeral, ?_⟩
    · simp [NumberValue.print, Numeral.write_natCast, hzero, bind, Except.bind, pure, Except.pure,
        point]
    · rw [htoken, Numeral.positional_toDigits, Numeral.positional_toDigits]

/-- A lexable token is written as a lexeme, under any configuration. -/
theorem exists_canonical_of_lexable {token : Token} {other : Config} (h : token.Lexable other)
    (config : Config) : ∃ lexeme, token.canonical config = .ok lexeme ∧ IsLexeme lexeme := by
  obtain ⟨meaning, lexeme⟩ := token
  cases meaning with
  | identifier text =>
    refine ⟨text, rfl, ?_⟩
    rcases h with rfl | ⟨hword, -⟩
    · exact .inr (.inr isSymbol_equals)
    · exact .inl hword
  | number value =>
    obtain ⟨hwhole, hfrac⟩ := h
    obtain ⟨text, hprint, hnumeral, -⟩ := exists_print_of_nonneg config hwhole hfrac
    exact ⟨text, congrArg (Except.mapError _) hprint, .inr (.inl hnumeral)⟩
  | symbol s =>
    exact ⟨_, rfl, (AliasStyle.isLexeme_of_mem_vocabulary
      (config.aliasStyle.canonical_mem s)).1⟩

/-- What a lexable token is written as has its meaning. -/
theorem meaning_token_canonical {token : Token} (h : token.Lexable config) {lexeme : Text}
    (hcanonical : token.canonical config = .ok lexeme) :
    (Lexeme.token config lexeme).meaning = token.meaning := by
  obtain ⟨meaning, written⟩ := token
  cases meaning with
  | identifier text =>
    obtain rfl := Except.ok.inj hcanonical
    have hnone : ¬ IsNumeral text ∧ config.kindOf? text = none := by
      rcases h with rfl | ⟨hword, halias⟩
      · exact ⟨by decide, (Config.kindOf?_eq_none_iff_of_isSymbol isSymbol_equals).2 rfl⟩
      · exact ⟨not_isNumeral_of_isWord hword, (Config.kindOf?_eq_none_iff_of_isWord hword).2
          (mt (isAliasUnder_iff config text).2 halias)⟩
    rw [token_of_not_isNumeral config hnone.1, Config.resolve_of_eq_none hnone.2]
    rfl
  | number value =>
    obtain ⟨hwhole, hfrac⟩ := h
    obtain ⟨text, hprint, -, htoken⟩ := exists_print_of_nonneg config hwhole hfrac
    obtain rfl := Except.ok.inj ((congrArg (Except.mapError _) hprint).symm.trans hcanonical)
    rw [htoken]
    rfl
  | symbol s =>
    obtain rfl := Except.ok.inj hcanonical
    have hmem := config.aliasStyle.canonical_mem s
    rw [token_of_not_isNumeral config (AliasStyle.isLexeme_of_mem_vocabulary hmem).2,
      Config.resolve_of_eq_some (config.aliasStyle.lookup_canonical s)]
    rfl

end Token

end LogicLexer
