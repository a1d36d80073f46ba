import LogicLexer.Lexeme

/-!
# The lexical grammar: lexemes

What a source is made of, said without a scanner. A lexeme is a word, a numeral or a
symbol, and which of the three it is shows in its characters alone. A lexeme ends where
the next character would not go on with it, so each has its own set of characters that
may not follow at once.

## Main definitions

* `Lexeme.IsWord`, `Lexeme.IsNumeral`, `Lexeme.IsSymbol`, `Lexeme.IsLexeme` — the
  lexemes
* `Lexeme.Extends` — a character that goes on with a lexeme
* `Lexeme.parts` — what stands on either side of the point of a numeral
* `Lexeme.token` — the token of a lexeme, numerals read digit by digit
* `Lexeme.IsAliasUnder` — the aliases that a configuration selects
* `Token.Lexable` — the tokens that some lexeme has

## Main results

* `Lexeme.isWord_cons` — words by their characters
-/

namespace LogicLexer

namespace Lexeme

/-- Nothing but blanks, or nothing at all. -/
def IsGap (text : Text) : Prop :=
  ∀ c ∈ text, isBlank c = true

/-- A character that begins a word, and then characters that go on with one. -/
def IsWord : Text → Prop
  | [] => False
  | c :: rest => isWordStart c = true ∧ ∀ d ∈ rest, isWordPart d = true

/-- A digit or the decimal point. -/
def isNumeralChar (c : Char) : Bool :=
  isDigit c || c == point

/-- Digits with at most one point among them. A point alone is a numeral. -/
def IsNumeral (text : Text) : Prop :=
  text ≠ [] ∧ (∀ c ∈ text, isNumeralChar c = true) ∧ text.count point ≤ 1

/-- The arrow of two characters, or a character that forms a token by itself. -/
def IsSymbol (text : Text) : Prop :=
  text = ['-', '>'] ∨ ∃ c ∈ symbolChars, text = [c]

/-- A word, a numeral or a symbol. -/
def IsLexeme (text : Text) : Prop :=
  IsWord text ∨ IsNumeral text ∨ IsSymbol text

/-- The character goes on with the lexeme, so it may not follow without a gap. -/
def Extends (text : Text) (c : Char) : Prop :=
  (IsWord text ∧ isWordPart c = true) ∨ (IsNumeral text ∧ isNumeralChar c = true) ∨
    (text = ['-'] ∧ c = '>')

-- The bounded quantifiers are decided along the list by name: characters are finitely many,
-- and an instance that is searched for may go through all of them instead.
instance (text : Text) : Decidable (IsGap text) :=
  List.decidableBAll (fun c => isBlank c = true) text

instance : (text : Text) → Decidable (IsWord text)
  | [] => inferInstanceAs (Decidable False)
  | c :: rest =>
    have := List.decidableBAll (fun d => isWordPart d = true) rest
    inferInstanceAs (Decidable (isWordStart c = true ∧ ∀ d ∈ rest, isWordPart d = true))

instance (text : Text) : Decidable (IsNumeral text) :=
  have := List.decidableBAll (fun c => isNumeralChar c = true) text
  inferInstanceAs (Decidable (text ≠ [] ∧ (∀ c ∈ text, isNumeralChar c = true) ∧ _))

instance (text : Text) : Decidable (IsSymbol text) :=
  have := List.decidableBEx (fun c => text = [c]) symbolChars
  inferInstanceAs (Decidable (text = ['-', '>'] ∨ ∃ c ∈ symbolChars, text = [c]))

instance (text : Text) : Decidable (IsLexeme text) :=
  inferInstanceAs (Decidable (IsWord text ∨ IsNumeral text ∨ IsSymbol text))

instance (text : Text) (c : Char) : Decidable (Extends text c) :=
  inferInstanceAs (Decidable ((IsWord text ∧ isWordPart c = true) ∨
    (IsNumeral text ∧ isNumeralChar c = true) ∨ (text = ['-'] ∧ c = '>')))

/-- What stands before the first point of a text, and what stands after it. -/
def parts : Text → Text × Text
  | [] => ([], [])
  | c :: rest => if c = point then ([], rest) else (c :: (parts rest).1, (parts rest).2)

/-- The token of a lexeme. A numeral is worth the positional values of its two digit
runs, and any other lexeme is looked up. -/
def token (config : Config) (text : Text) : Token :=
  if IsNumeral text then
    .number (Numeral.positional (parts text).1) (Numeral.positional (parts text).2) text
  else config.resolve text

/-- The text is an alias under the configuration, spelled forwards if the setting is on and
backwards if it is off. -/
def IsAliasUnder (config : Config) (text : Text) : Prop :=
  (if config.naturalKeywords.isOn then text else text.reverse) ∈ naturalAliases.map Prod.fst

@[simp] theorem not_isWord_nil : ¬ IsWord [] := id

@[simp] theorem isWord_cons {c : Char} {rest : Text} :
    IsWord (c :: rest) ↔ isWordStart c = true ∧ ∀ d ∈ rest, isWordPart d = true := Iff.rfl

end Lexeme

/-- The token can be read from some text under the configuration: a number that is
nowhere negative, any symbol, and an identifier that is an equals sign or a word without
another meaning. -/
def Token.Lexable (config : Config) (token : Token) : Prop :=
  match token.meaning with
  | .identifier text => text = ['='] ∨ (Lexeme.IsWord text ∧ ¬ Lexeme.IsAliasUnder config text)
  | .number value => 0 ≤ value.whole ∧ 0 ≤ value.frac
  | .symbol _ => True

end LogicLexer
