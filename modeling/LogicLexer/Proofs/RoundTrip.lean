import LogicLexer.Proofs.MapM
import LogicLexer.Proofs.Vocabulary
import LogicLexer.Proofs.Grammar.Separation
import LogicLexer.Proofs.Tokenize.Layout

/-!
# Writing tokens and reading them back

Lexable tokens are written as lexemes with a space between any two, and so they are a
well-formed layout whatever the neighbours are. Read back under the same configuration
they mean what they meant. Other tokens do not come back, since what is read is always
lexable.

## Main definitions

* `Layout.ofLexemes` — lexemes with a space between any two
* `RoundTrips` — tokens that are written and read back as tokens of the same meaning

## Main results

* `Layout.text_ofLexemes`, `Layout.wellFormed_ofLexemes` — lexemes with spaces between them
  are well formed
* `tokenize_render_of_lexable` — what lexable tokens are written as, and read back as,
  where the two configurations need not be the same
* `roundTrips_iff_forall_lexable` — which tokens come back
-/

namespace LogicLexer

open Lexeme

variable {config : Config} {lexemes : List Text} {tokens : List Token}

namespace Layout

/-- The lexemes with a space between any two. -/
def ofLexemes : List Text → Layout
  | [] => ⟨[], []⟩
  | first :: rest => (⟨rest.map fun lexeme => ([' '], lexeme), []⟩ : Layout).cons [] first

theorem text_ofLexemes (lexemes : List Text) :
    (ofLexemes lexemes).text = [' '].intercalate lexemes := by
  cases lexemes with
  | nil => rfl
  | cons first rest =>
    rw [ofLexemes, text_cons, List.nil_append]
    induction rest generalizing first with
    | nil =>
      rw [List.intercalate_singleton]
      exact List.append_nil first
    | cons next rest ih =>
      rw [List.intercalate_cons_cons, ← ih next, List.append_assoc first]
      rfl

theorem lexemes_ofLexemes (lexemes : List Text) : (ofLexemes lexemes).lexemes = lexemes := by
  cases lexemes with
  | nil => rfl
  | cons first rest =>
    rw [ofLexemes, lexemes_cons, Layout.lexemes, List.map_map]
    exact congrArg (first :: ·) (List.map_id rest)

theorem spaced_ofLexemes (h : ∀ lexeme ∈ lexemes, IsLexeme lexeme) :
    (ofLexemes lexemes).Spaced := by
  cases lexemes with
  | nil => exact ⟨fun piece hpiece => absurd hpiece List.not_mem_nil, isGap_nil⟩
  | cons first rest =>
    have hspace : IsGap [' '] := by decide
    refine spaced_cons.2 ⟨⟨isGap_nil, h first List.mem_cons_self⟩, ?_, isGap_nil⟩
    intro piece hpiece
    obtain ⟨lexeme, hmem, rfl⟩ := List.mem_map.1 hpiece
    exact ⟨hspace, h lexeme (List.mem_cons_of_mem first hmem)⟩

theorem separated_ofLexemes (lexemes : List Text) : (ofLexemes lexemes).Separated := by
  cases lexemes with
  | nil => exact separated_nil []
  | cons first rest =>
    -- only the gap before the first lexeme is empty, and it has nothing on its left
    have hrest (gap first : Text) : ((⟨rest.map fun lexeme => ([' '], lexeme), []⟩ : Layout).cons
        gap first).Separated := by
      induction rest generalizing gap first with
      | nil => exact separated_singleton gap first []
      | cons next rest ih =>
        exact separated_cons_cons.2 ⟨fun hnil => absurd hnil (by simp), ih [' '] next⟩
    exact hrest [] first

/-- Lexemes with spaces between them are well formed. -/
theorem wellFormed_ofLexemes (h : ∀ lexeme ∈ lexemes, IsLexeme lexeme) :
    (ofLexemes lexemes).WellFormed :=
  (spaced_ofLexemes h).wellFormed_iff_separated.2 (separated_ofLexemes lexemes)

end Layout

/-- The tokens are written as some text, which is read as tokens of the same meaning. -/
def RoundTrips (config : Config) (tokens : List Token) : Prop :=
  ∃ text, render config tokens = .ok text ∧ ∃ found, tokenize config text = .ok found ∧
    List.Forall₂ (fun left right => left.agrees right = true) found tokens

/-- Lexemes with spaces between them are read as their tokens. -/
theorem tokenize_intercalate (config : Config) (h : ∀ lexeme ∈ lexemes, IsLexeme lexeme) :
    tokenize config ([' '].intercalate lexemes) = .ok (lexemes.map (Lexeme.token config)) := by
  have hread := tokenize_of_wellFormed config (Layout.wellFormed_ofLexemes h)
  rwa [Layout.text_ofLexemes, Layout.tokens, Layout.lexemes_ofLexemes] at hread

/-- Lexable tokens are written as lexemes. -/
theorem exists_lexemes_of_lexable {other : Config} (h : ∀ token ∈ tokens, token.Lexable other)
    (config : Config) : ∃ lexemes,
      List.Forall₂ (fun token lexeme => token.canonical config = .ok lexeme) tokens lexemes ∧
        ∀ lexeme ∈ lexemes, IsLexeme lexeme := by
  induction tokens with
  | nil => exact ⟨[], .nil, fun lexeme hmem => absurd hmem List.not_mem_nil⟩
  | cons token tokens ih =>
    obtain ⟨htoken, htokens⟩ := List.forall_mem_cons.1 h
    obtain ⟨lexeme, hcanonical, hlexeme⟩ := Token.exists_canonical_of_lexable htoken config
    obtain ⟨lexemes, hrest, hall⟩ := ih htokens
    exact ⟨lexeme :: lexemes, .cons hcanonical hrest, List.forall_mem_cons.2 ⟨hlexeme, hall⟩⟩

/-- What lexable tokens are written as is read as the tokens of its lexemes. -/
theorem tokenize_render_of_lexable {other : Config} (h : ∀ token ∈ tokens, token.Lexable other)
    (config read : Config) :
    ∃ text lexemes, render config tokens = .ok text ∧
      List.Forall₂ (fun token lexeme => token.canonical config = .ok lexeme) tokens lexemes ∧
      tokenize read text = .ok (lexemes.map (Lexeme.token read)) := by
  obtain ⟨lexemes, hcanonical, hall⟩ := exists_lexemes_of_lexable h config
  refine ⟨[' '].intercalate lexemes, lexemes, ?_, hcanonical, tokenize_intercalate read hall⟩
  rw [render, mapM_eq_ok_iff.2 hcanonical]
  rfl

/-- Lexable tokens come back. -/
theorem roundTrips_of_lexable (h : ∀ token ∈ tokens, token.Lexable config) :
    RoundTrips config tokens := by
  obtain ⟨text, lexemes, hrender, hcanonical, hread⟩ := tokenize_render_of_lexable h config config
  refine ⟨text, hrender, _, hread, ?_⟩
  rw [List.forall₂_map_left_iff]
  clear hrender hread
  -- the texts play no part from here on: the two lists agree item by item
  induction hcanonical with
  | nil => exact .nil
  | cons hlexeme _ ih =>
    obtain ⟨htoken, htokens⟩ := List.forall_mem_cons.1 h
    refine .cons ?_ (ih htokens)
    rw [Token.agrees_iff]
    exact Token.meaning_token_canonical htoken hlexeme

/-- What is read is lexable. -/
theorem lexable_of_tokenize {text : Text} (h : tokenize config text = .ok tokens) :
    ∀ token ∈ tokens, token.Lexable config := by
  obtain ⟨layout, hwell, -, rfl⟩ := exists_wellFormed_of_tokenize h
  intro token hmem
  obtain ⟨lexeme, hlexeme, rfl⟩ := List.mem_map.1 hmem
  exact lexable_token config (hwell.isLexeme hlexeme)

/-- Whether a token is lexable depends on its meaning only. -/
theorem Token.lexable_of_agrees {left right : Token} (h : left.agrees right = true)
    (hleft : left.Lexable config) : right.Lexable config := by
  rw [Token.agrees_iff] at h
  rwa [Token.Lexable, h] at hleft

/-- Tokens come back exactly when each of them is lexable. In particular the tokens of any
text do. -/
theorem roundTrips_iff_forall_lexable (config : Config) (tokens : List Token) :
    (RoundTrips config tokens ↔ ∀ token ∈ tokens, token.Lexable config) ∧
      ∀ text found, tokenize config text = .ok found → RoundTrips config found := by
  refine ⟨⟨?_, roundTrips_of_lexable⟩, ?_⟩
  · rintro ⟨text, -, found, hread, hagree⟩ token hmem
    -- the token agrees with one that was read
    obtain ⟨source, hsource, hagrees⟩ : ∃ source ∈ found, source.agrees token = true := by
      obtain ⟨i, hi, rfl⟩ := List.mem_iff_getElem.1 hmem
      have hlength := hagree.length_eq
      exact ⟨found[i], List.getElem_mem (by omega), hagree.get (by omega) hi⟩
    exact Token.lexable_of_agrees hagrees (lexable_of_tokenize hread source hsource)
  · intro text found hread
    exact roundTrips_of_lexable (lexable_of_tokenize hread)

end LogicLexer
