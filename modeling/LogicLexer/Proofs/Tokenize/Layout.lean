import LogicLexer.Tokenize
import LogicLexer.Proofs.Grammar.Layout
import LogicLexer.Proofs.Scanner.Fault

/-!
# Reading a layout

A pass over a source that is laid out by the grammar visits its lexemes one by one, each
visit ending where the lexeme does. What remains then is the ending: a gap, which holds
no token, or a fault, which ends the pass.

## Main definitions

* `Layout.visits` — the scans that come to the lexemes of a layout

## Main results

* `pass_of_leads` — a pass visits the lexemes and goes on with the ending
* `pass_of_wellFormed`, `tokenize_of_wellFormed` — a well-formed layout is read as its tokens
* `tokenize_of_fault` — a fault ends the reading with its error
* `tokenize_eq_ok_iff_exists_layout` — the texts that are read are those with a well-formed
  layout, which is unique
-/

namespace LogicLexer

open Lexeme

namespace Layout

/-- The scans that come to the lexemes of pieces laid out from an offset on. -/
def visits (config : Config) (offset : Nat) : List (Text × Text) → List Visit
  | [] => []
  | (gap, lexeme) :: rest =>
    let next := offset + gap.length + lexeme.length
    ⟨offset, some (Lexeme.token config lexeme), (next : Nat)⟩ :: visits config next rest

/-- The text of a layout before its ending. -/
def body (layout : Layout) : Text :=
  text ⟨layout.pieces, []⟩

theorem text_eq_body_append (layout : Layout) : layout.text = layout.body ++ layout.ending :=
  text_append layout.pieces [] layout.ending

theorem length_body_cons (gap lexeme : Text) (layout : Layout) :
    (layout.cons gap lexeme).body.length =
      gap.length + lexeme.length + layout.body.length := by
  change (gap ++ lexeme ++ layout.body).length = _
  rw [List.length_append, List.length_append]

/-- Every visit of a layout finds a token, and these are its tokens. -/
theorem map_token?_visits (config : Config) (offset : Nat) (layout : Layout) :
    (visits config offset layout.pieces).map Visit.token? = (layout.tokens config).map some := by
  induction layout using consInduction generalizing offset with
  | nil ending => rfl
  | cons gap lexeme layout ih =>
    rw [tokens_cons, List.map_cons, ← ih (offset + gap.length + lexeme.length)]
    rfl

/-- The visits of a layout find its tokens. -/
theorem filterMap_token?_visits (config : Config) (offset : Nat) (layout : Layout) :
    (visits config offset layout.pieces).filterMap Visit.token? = layout.tokens config := by
  have hvisits := congrArg (List.filterMap id) (map_token?_visits config offset layout)
  rw [List.filterMap_map, List.filterMap_map] at hvisits
  exact hvisits.trans List.filterMap_some

end Layout

variable {config : Config} {source : Source} {layout : Layout} {n : Nat}

/-- There is something ahead of an offset only before the end of the source. -/
theorem Source.lt_size_of_ahead_ne_nil (h : source.ahead n ≠ []) : (n : Int) < source.size :=
  Int.not_le.1 fun hle => h (ahead_eq_nil hle)

theorem Source.lt_size_of_ahead_eq_append {gap rest : Text}
    (hahead : source.ahead n = gap ++ rest) (hne : rest ≠ []) : (n : Int) < source.size := by
  apply lt_size_of_ahead_ne_nil
  rw [hahead]
  exact List.append_ne_nil_of_right_ne_nil gap hne

/-- Behind its first lexeme the rest of a layout lies ahead. -/
theorem Source.ahead_of_text_cons {gap lexeme : Text}
    (hahead : source.ahead n = (layout.cons gap lexeme).text) :
    source.ahead ((n + gap.length + lexeme.length : Nat) : Int) = layout.text := by
  have hrest := ahead_add_length (by omega) hahead
  rwa [List.length_append, ← Int.natCast_add, ← Nat.add_assoc] at hrest

/-- A pass visits the lexemes of a layout and goes on with its ending. -/
theorem pass_of_leads (config : Config) (hleads : layout.Leads)
    (hahead : source.ahead n = layout.text) :
    pass config source n =
      ⟨Layout.visits config n layout.pieces ++
          (pass config source ((n + layout.body.length : Nat) : Int)).visits,
        (pass config source ((n + layout.body.length : Nat) : Int)).failure?⟩ := by
  induction layout using Layout.consInduction generalizing n with
  | nil ending => rfl
  | cons gap lexeme layout ih =>
    obtain ⟨hgap, hlexeme, hfollow, hrest⟩ := Layout.leads_cons.1 hleads
    have hnext := Source.ahead_of_text_cons hahead
    rw [Layout.text_cons] at hahead
    -- a lexeme is ahead, so the pass has not come to the end yet
    have hlt : (n : Int) < source.size := by
      apply Source.lt_size_of_ahead_eq_append (hahead.trans (List.append_assoc _ _ _))
      exact List.append_ne_nil_of_left_ne_nil (ne_nil_of_isLexeme hlexeme) _
    rw [pass_of_ok hlt (scan_of_lexeme hgap hlexeme hahead hfollow), ih hrest hnext,
      Layout.length_body_cons, ← Nat.add_assoc, ← Nat.add_assoc]
    rfl

/-- A pass over blanks does not fail. It makes at most one scan, which finds no token. -/
theorem map_token?_of_gap (config : Config) (hgap : IsGap (source.ahead n)) :
    (pass config source n).failure? = none ∧
      ((pass config source n).visits.map Visit.token? = [] ∨
        (pass config source n).visits.map Visit.token? = [none]) := by
  -- at the end of the source not even one scan is left
  by_cases hnil : source.ahead n = []
  · have hend : source.size ≤ (n : Int) := by
      have := congrArg List.length hnil
      rw [Source.ahead_natCast, List.length_drop, Array.length_toList] at this
      exact Int.ofNat_le.2 (Nat.le_of_sub_eq_zero this)
    rw [pass_of_size_le hend]
    exact ⟨rfl, .inl rfl⟩
  · have hlt := Source.lt_size_of_ahead_ne_nil hnil
    have hend : (source.size : Int) ≤ n + (source.ahead n).length := by
      rw [Source.ahead_natCast, List.length_drop, Array.length_toList]
      omega
    rw [pass_of_ok hlt (scan_of_gap (by omega) hgap), pass_of_size_le hend]
    exact ⟨rfl, .inr rfl⟩

/-- A pass over blanks finds no token and does not fail. -/
theorem pass_of_gap (config : Config) (hgap : IsGap (source.ahead n)) :
    (pass config source n).failure? = none ∧ (pass config source n).tokens = [] := by
  obtain ⟨hfailure, hvisits⟩ := map_token?_of_gap config hgap
  refine ⟨hfailure, ?_⟩
  rw [Pass.tokens_eq]
  rcases hvisits with hnil | hnone
  · rw [hnil]
    rfl
  · rw [hnone]
    rfl

/-- A pass that comes to a fault after some blanks ends with its error. -/
theorem pass_of_fault (config : Config) {gap rest : Text} (hgap : IsGap gap)
    (hfault : BeginsFaulty rest) (hahead : source.ahead n = gap ++ rest) :
    pass config source n =
      ⟨[], some (.lexical (.ofFault ((n + gap.length : Nat) : Int) rest rest))⟩ := by
  have hlt := Source.lt_size_of_ahead_eq_append hahead (ne_nil_of_beginsFaulty hfault)
  exact pass_of_error hlt (scan_of_beginsFaulty hgap hfault hahead)

/-! ### Texts that are laid out -/

theorem ahead_zero_toArray (text : Text) : Source.ahead text.toArray ((0 : Nat) : Int) = text :=
  Source.ahead_zero text.toArray

/-- After the lexemes of a text its ending lies ahead. -/
theorem ahead_length_body (layout : Layout) :
    Source.ahead layout.text.toArray ((0 + layout.body.length : Nat) : Int) = layout.ending := by
  rw [Source.ahead_natCast, Nat.zero_add, layout.text_eq_body_append]
  exact List.drop_left

/-- A pass over a well-formed layout does not fail, and visits its lexemes before anything
that holds no token. -/
theorem pass_of_wellFormed (config : Config) (h : layout.WellFormed) :
    ∃ others, others.filterMap Visit.token? = [] ∧
      pass config layout.text.toArray 0 =
        ⟨Layout.visits config 0 layout.pieces ++ others, none⟩ := by
  obtain ⟨hleads, hgap⟩ := Layout.wellFormed_iff.1 h
  have hpass := pass_of_leads config hleads (ahead_zero_toArray layout.text)
  have hending := pass_of_gap config ((ahead_length_body layout).symm ▸ hgap)
  rw [hending.1] at hpass
  exact ⟨_, hending.2, hpass⟩

/-- A well-formed layout is read as its tokens. -/
theorem tokenize_of_wellFormed (config : Config) (h : layout.WellFormed) :
    tokenize config layout.text = .ok (layout.tokens config) := by
  obtain ⟨others, hothers, hpass⟩ := pass_of_wellFormed config h
  rw [tokenize_eq_ok_iff, hpass]
  refine ⟨rfl, ?_⟩
  rw [Pass.tokens, List.filterMap_append, Layout.filterMap_token?_visits, hothers,
    List.append_nil]

/-- A fault ends the reading of a text with its error. -/
theorem tokenize_of_fault (config : Config) {pieces : List (Text × Text)} {gap rest : Text}
    (hleads : Layout.Leads ⟨pieces, gap ++ rest⟩) (hgap : IsGap gap) (hfault : BeginsFaulty rest) :
    tokenize config (Layout.text ⟨pieces, gap ++ rest⟩) =
      .error (.lexical (.ofFault (Layout.text ⟨pieces, gap⟩).length rest rest)) := by
  have hpass := pass_of_leads config hleads (ahead_zero_toArray _)
  have hending := pass_of_fault config hgap hfault (ahead_length_body ⟨pieces, gap ++ rest⟩)
  have hoffset : 0 + (Layout.body ⟨pieces, gap ++ rest⟩).length + gap.length =
      (Layout.text ⟨pieces, gap⟩).length := by
    rw [Layout.text_eq_body_append ⟨pieces, gap⟩, List.length_append, Nat.zero_add]
    rfl
  rw [hending, hoffset] at hpass
  rw [tokenize, show (0 : Int) = ((0 : Nat) : Int) from rfl, hpass]

/-- A text that is read has a well-formed layout. -/
theorem exists_wellFormed_of_tokenize {text : Text} {tokens : List Token}
    (h : tokenize config text = .ok tokens) :
    ∃ layout : Layout, layout.WellFormed ∧ layout.text = text ∧ layout.tokens config = tokens := by
  obtain ⟨layout, rfl, hleads, hgap | ⟨gap, rest, hending, hgap, hfault⟩⟩ :=
    Layout.exists_leads text
  · have hwell := Layout.wellFormed_iff.2 ⟨hleads, hgap⟩
    rw [tokenize_of_wellFormed config hwell] at h
    exact ⟨layout, hwell, rfl, Except.ok.inj h⟩
  · -- a text with a fault is not read
    obtain ⟨pieces, ending⟩ := layout
    obtain rfl : ending = gap ++ rest := hending
    rw [tokenize_of_fault config hleads hgap hfault] at h
    exact absurd h (by simp)

/-- A text is read exactly when it has a well-formed layout, and then as the tokens of its
lexemes. No text has two of them. -/
theorem tokenize_eq_ok_iff_exists_layout (config : Config) (text : Text) (tokens : List Token) :
    (tokenize config text = .ok tokens ↔
      ∃ layout : Layout,
        layout.WellFormed ∧ layout.text = text ∧ layout.tokens config = tokens) ∧
      ∀ left right : Layout, left.WellFormed → right.WellFormed → left.text = text →
        right.text = text → left = right := by
  refine ⟨⟨exists_wellFormed_of_tokenize, ?_⟩, ?_⟩
  · rintro ⟨layout, hwell, rfl, rfl⟩
    exact tokenize_of_wellFormed config hwell
  · intro left right hleft hright hltext hrtext
    exact Layout.eq_of_text_eq hleft hright (hltext.trans hrtext.symm)

end LogicLexer
