import LogicLexer.Proofs.Tokenize.Appending

/-!
# The layout that a pass shows

The scans of a source say where its tokens lie and what their lexemes are, and what they
passed over before each of them is the gap. So a source that is read shows its layout, and
the layout can be put together again from the scans.

## Main definitions

* `Pass.layout` — the lexemes that a pass found in a source, and the gaps around them
* `Pass.spans` — where the tokens that a pass found begin and end

## Main results

* `layout_pass_of_wellFormed` — the layout is put together again
* `spans_pass_of_wellFormed` — the spans of a well-formed layout
-/

namespace LogicLexer

open Lexeme

/-- The gap that a scan passed over, and the lexeme that it found behind the gap, if any. -/
def Visit.piece? (source : Source) (visit : Visit) : Option (Text × Text) :=
  visit.token?.map fun token =>
    (source.slice visit.position (visit.next - token.lexeme.length), token.lexeme)

/-- Where the token of a scan begins and ends, if the scan found one. -/
def Visit.span? (visit : Visit) : Option (Int × Int) :=
  visit.start?.map fun start => (start, visit.next)

/-- The lexemes that a pass found in a source, each with the gap before it, and what is left of
the source behind the last of them. -/
def Pass.layout (source : Source) (pass : Pass) : Layout where
  pieces := pass.visits.filterMap (Visit.piece? source)
  ending := source.suffix ((pass.lastFind?.map Visit.next).getD 0)

/-- Where the tokens that a pass found begin and end, in order. -/
def Pass.spans (pass : Pass) : List (Int × Int) :=
  pass.visits.filterMap Visit.span?

variable {source : Source} {layout : Layout} {n : Nat}

namespace Layout

/-- Where the lexemes of pieces begin and end that are laid out from an offset on. -/
def spans (offset : Nat) : List (Text × Text) → List (Int × Int)
  | [] => []
  | (gap, lexeme) :: rest =>
    let start := offset + gap.length
    ((start : Int), ((start + lexeme.length : Nat) : Int)) :: spans (start + lexeme.length) rest

/-- The visits of a layout show its pieces. -/
theorem filterMap_piece?_visits (config : Config) (hahead : source.ahead n = layout.text) :
    (visits config n layout.pieces).filterMap (Visit.piece? source) = layout.pieces := by
  induction layout using consInduction generalizing n with
  | nil ending => rfl
  | cons gap lexeme layout ih =>
    have hnext := Source.ahead_of_text_cons hahead
    rw [text_cons] at hahead
    have hgap : source.slice n (n + gap.length) = gap :=
      Source.slice_of_ahead (hahead.trans (List.append_assoc _ _ _))
    have hpiece : Visit.piece? source ⟨n, some (Lexeme.token config lexeme),
        ((n + gap.length + lexeme.length : Nat) : Int)⟩ = some (gap, lexeme) := by
      rw [Visit.piece?, Option.map_some, token_lexeme, Int.natCast_add, Int.natCast_add,
        Int.add_sub_cancel, hgap]
    exact (List.filterMap_cons_some hpiece).trans (congrArg (_ :: ·) (ih hnext))

/-- The visits of a layout show where its lexemes lie. -/
theorem filterMap_span?_visits (config : Config) (n : Nat) (pieces : List (Text × Text)) :
    (visits config n pieces).filterMap Visit.span? = spans n pieces := by
  induction pieces generalizing n with
  | nil => rfl
  | cons piece rest ih =>
    obtain ⟨gap, lexeme⟩ := piece
    have hspan : Visit.span? ⟨n, some (Lexeme.token config lexeme),
        ((n + gap.length + lexeme.length : Nat) : Int)⟩ =
          some (((n + gap.length : Nat) : Int), ((n + gap.length + lexeme.length : Nat) : Int)) := by
      rw [Visit.span?, Visit.start?, Option.map_some, Option.map_some, token_lexeme,
        Int.natCast_add _ lexeme.length, Int.add_sub_cancel]
    exact (List.filterMap_cons_some hspan).trans (congrArg (_ :: ·) (ih _))

/-- Lexemes of the same lengths in the same gaps lie at the same places. -/
theorem spans_mapLexemes {f : Text → Text} (hf : ∀ text, (f text).length = text.length)
    (n : Nat) (layout : Layout) :
    spans n (layout.mapLexemes f).pieces = spans n layout.pieces := by
  induction layout using consInduction generalizing n with
  | nil ending => rfl
  | cons gap lexeme layout ih =>
    change (_, ((n + gap.length + (f lexeme).length : Nat) : Int)) ::
      spans (n + gap.length + (f lexeme).length) (layout.mapLexemes f).pieces = _
    rw [hf, ih]
    rfl

/-- The last visit ends where the lexemes do. -/
theorem next_getLast?_visits (config : Config) (layout : Layout) :
    ((visits config 0 layout.pieces).getLast?.map Visit.next).getD 0 = layout.body.length := by
  have hlast := congrArg (Option.map Prod.snd) (getLast?_visits config 0 layout)
  rw [Option.map_map, Option.map_map] at hlast
  have hnext : (visits config 0 layout.pieces).getLast?.map Visit.next =
      layout.lexemes.getLast?.map fun _ => ((0 + layout.body.length : Nat) : Int) := hlast
  rw [hnext, Nat.zero_add]
  cases layout using consInduction with
  | nil ending => rfl
  | cons gap lexeme layout =>
    rw [lexemes_cons, List.getLast?_cons, Option.map_some, Option.getD_some]

end Layout

/-- What a scan without a token shows, if everything that is shown is about a token. -/
theorem filterMap_eq_nil_of_token? {α : Type} {show? : Visit → Option α}
    (hshow : ∀ visit, visit.token? = none → show? visit = none) {others : List Visit}
    (h : others.filterMap Visit.token? = []) : others.filterMap show? = [] := by
  rw [List.filterMap_eq_nil_iff] at h ⊢
  exact fun visit hvisit => hshow visit (h visit hvisit)

/-- A well-formed layout is put together again from the scans of its text. -/
theorem layout_pass_of_wellFormed (config : Config) (h : layout.WellFormed) :
    (pass config layout.text.toArray 0).layout layout.text.toArray = layout := by
  have hlast : ((pass config layout.text.toArray 0).lastFind?.map Visit.next).getD 0 =
      layout.body.length := by
    rw [lastFind?_of_wellFormed config h, Layout.next_getLast?_visits]
  have hending := ahead_length_body layout
  rw [Nat.zero_add] at hending
  rw [Pass.layout, hlast, Source.suffix_eq_ahead, hending]
  obtain ⟨others, hothers, hpass⟩ := pass_of_wellFormed config h
  have hnone : others.filterMap (Visit.piece? layout.text.toArray) = [] :=
    filterMap_eq_nil_of_token? (fun visit hvisit => by rw [Visit.piece?, hvisit]; rfl) hothers
  rw [hpass, List.filterMap_append, hnone, List.append_nil,
    Layout.filterMap_piece?_visits config (ahead_zero_toArray layout.text)]

/-- The tokens of a well-formed layout begin and end where its lexemes do. -/
theorem spans_pass_of_wellFormed (config : Config) (h : layout.WellFormed) :
    (pass config layout.text.toArray 0).spans = Layout.spans 0 layout.pieces := by
  obtain ⟨others, hothers, hpass⟩ := pass_of_wellFormed config h
  have hnone : others.filterMap Visit.span? = [] :=
    filterMap_eq_nil_of_token?
      (fun visit hvisit => by rw [Visit.span?, Visit.start?, hvisit]; rfl) hothers
  rw [Pass.spans, hpass, List.filterMap_append, hnone, List.append_nil,
    Layout.filterMap_span?_visits]

end LogicLexer
