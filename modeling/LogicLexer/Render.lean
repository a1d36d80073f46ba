import LogicLexer.Vocabulary

/-!
# Rendering tokens

Tokens are written back as source text: each in its preferred form, with one space
between any two. A word is written as it is, a number as its numeral, and a symbol in the
preferred spelling of the configuration. Rendering fails only at a negative number that
is too long to be written.

## Main definitions

* `Token.canonical` — the preferred text of a token
* `render` — the text of a list of tokens
-/

namespace LogicLexer

/-- The preferred text of a token. -/
def Token.canonical (config : Config) (token : Token) : Except Failure Text :=
  match token.meaning with
  | .identifier text => .ok text
  | .number value => value.print.mapError .unconvertible
  | .symbol s => .ok (config.aliasStyle.canonical s)

/-- The preferred texts of the tokens, with one space between any two. -/
def render (config : Config) (tokens : List Token) : Except Failure Text :=
  (tokens.mapM (Token.canonical config)).map [' '].intercalate

end LogicLexer
