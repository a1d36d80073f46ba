import LogicLexer.Text.Basic

/-!
# Configuration

One setting decides in which direction the ASCII aliases of the symbols are spelled. A
configuration file may write any value for it. The value is kept as written, and what
counts is whether it is on.

## Main definitions

* `Setting` — a value as a configuration file writes it
* `Setting.isOn` — the truth of a value
* `Config`, `Config.ofEntries` — a configuration, and the one that a file describes
* `AliasStyle` — the two directions in which the aliases may be spelled
-/

namespace LogicLexer

/-- A value as a configuration file writes it. A number is an integer or a decimal
fraction, which is its digits times ten to the power of its exponent and has a sign even
when it is zero. -/
inductive Setting
  | null
  | flag (value : Bool)
  | integer (value : Int)
  | fraction (negative : Bool) (digits : Nat) (exponent : Int)
  | text (value : String)
  | list (items : List Setting)
  | table (entries : List (String × Setting))
  deriving Inhabited, Repr

namespace Setting

/-- A value is on unless it is false, zero, missing or empty. -/
def isOn : Setting → Bool
  | null => false
  | flag value => value
  | integer value => value != 0
  | fraction _ digits _ => digits != 0
  | text value => !value.isEmpty
  | list items => !items.isEmpty
  | table entries => !entries.isEmpty

/-- The value is false or a number that counts as false. Other values that are off
differ from false. -/
def isFalse : Setting → Bool
  | flag value => !value
  | integer value => value == 0
  | fraction _ digits _ => digits == 0
  | _ => false

end Setting

/-- The direction in which the aliases are spelled. -/
inductive AliasStyle
  | natural
  | reversed
  deriving DecidableEq, Repr

/-- How words are looked up. -/
structure Config where
  naturalKeywords : Setting := .flag false

namespace Config

/-- The name of the setting in a configuration file. -/
def naturalKeywordsKey : String := "natural_keywords"

/-- The configuration that a file describes. Entries with other names are ignored. -/
def ofEntries (entries : List (String × Setting)) : Config :=
  match entries.lookup naturalKeywordsKey with
  | some setting => ⟨setting⟩
  | none => {}

/-- The configuration equals the default one. -/
def isDefault (config : Config) : Bool :=
  config.naturalKeywords.isFalse

/-- The spelling of the aliases that the configuration selects. -/
def aliasStyle (config : Config) : AliasStyle :=
  if config.naturalKeywords.isOn then .natural else .reversed

end Config

end LogicLexer
