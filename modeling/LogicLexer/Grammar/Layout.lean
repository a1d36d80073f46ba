import LogicLexer.Grammar.Lexeme

/-!
# The lexical grammar: layouts

A layout is a source cut into lexemes with gaps before, between and after them. It is
well formed if the gaps are blank, the lexemes belong to the grammar, and no lexeme is
followed at once by a character that goes on with it.

## Main definitions

* `Layout` — lexemes, each with the gap before it, and the gap at the end
* `Layout.text` — the source that is laid out
* `Layout.tokens` — the tokens of the lexemes
* `Layout.WellFormed` — the rules of the grammar
* `Layout.mapLexemes` — the layout with its lexemes replaced in place

## Main results

* `Layout.text_cons`, `Layout.wellFormed_cons` — a layout by its first lexeme
-/

namespace LogicLexer

/-- Lexemes, each with the gap before it, and the gap at the end. -/
structure Layout where
  pieces : List (Text × Text)
  ending : Text
  deriving DecidableEq, Repr

namespace Layout

/-- The layout with one more lexeme at the front. -/
def cons (gap lexeme : Text) (layout : Layout) : Layout :=
  { layout with pieces := (gap, lexeme) :: layout.pieces }

/-- The lexemes in order. -/
def lexemes (layout : Layout) : List Text :=
  layout.pieces.map Prod.snd

/-- The source that is laid out. -/
def text (layout : Layout) : Text :=
  layout.pieces.foldr (fun piece rest => piece.1 ++ piece.2 ++ rest) layout.ending

/-- The tokens of the lexemes. -/
def tokens (config : Config) (layout : Layout) : List Token :=
  layout.lexemes.map (Lexeme.token config)

/-- The layout with its lexemes replaced in place. -/
def mapLexemes (f : Text → Text) (layout : Layout) : Layout :=
  { layout with pieces := layout.pieces.map fun piece => (piece.1, f piece.2) }

/-- The pieces obey the grammar before the given ending. -/
def Obeys (ending : Text) : List (Text × Text) → Prop
  | [] => Lexeme.IsGap ending
  | (gap, lexeme) :: rest =>
    Lexeme.IsGap gap ∧ Lexeme.IsLexeme lexeme ∧
      (∀ c ∈ (text ⟨rest, ending⟩).head?, ¬ Lexeme.Extends lexeme c) ∧ Obeys ending rest

/-- The gaps are blank, the lexemes belong to the grammar, and none runs into what
follows it. -/
def WellFormed (layout : Layout) : Prop :=
  Obeys layout.ending layout.pieces

instance decidableObeys (ending : Text) :
    (pieces : List (Text × Text)) → Decidable (Obeys ending pieces)
  | [] => inferInstanceAs (Decidable (Lexeme.IsGap ending))
  | (gap, lexeme) :: rest =>
    have := decidableObeys ending rest
    have : Decidable (∀ c ∈ (text ⟨rest, ending⟩).head?, ¬ Lexeme.Extends lexeme c) :=
      Option.decidableForallMem _
    inferInstanceAs (Decidable (Lexeme.IsGap gap ∧ Lexeme.IsLexeme lexeme ∧
      (∀ c ∈ (text ⟨rest, ending⟩).head?, ¬ Lexeme.Extends lexeme c) ∧ Obeys ending rest))

instance (layout : Layout) : Decidable layout.WellFormed :=
  decidableObeys layout.ending layout.pieces

@[simp] theorem text_nil (ending : Text) : text ⟨[], ending⟩ = ending := rfl

@[simp] theorem text_cons (gap lexeme : Text) (layout : Layout) :
    (layout.cons gap lexeme).text = gap ++ lexeme ++ layout.text := rfl

@[simp] theorem tokens_cons (config : Config) (gap lexeme : Text) (layout : Layout) :
    (layout.cons gap lexeme).tokens config = Lexeme.token config lexeme :: layout.tokens config :=
  rfl

theorem wellFormed_nil {ending : Text} : WellFormed ⟨[], ending⟩ ↔ Lexeme.IsGap ending := Iff.rfl

/-- A layout obeys the grammar if its first lexeme does and ends where the rest begins,
and the rest obeys the grammar as well. -/
theorem wellFormed_cons {gap lexeme : Text} {layout : Layout} :
    (layout.cons gap lexeme).WellFormed ↔
      Lexeme.IsGap gap ∧ Lexeme.IsLexeme lexeme ∧
        (∀ c ∈ layout.text.head?, ¬ Lexeme.Extends lexeme c) ∧ layout.WellFormed := Iff.rfl

end Layout

end LogicLexer
