import LogicLexer.Proofs.Tokenize.Layout

/-!
# The first fault of a text

A text that is not read has one offset at which it fails. The text before it is read, the
character there does not go on with the last token before it, and a fault stands there.
Elsewhere one of the three does not hold, so the offset of the error is the only one.

## Main definitions

* `ContinuesLast` — a character that goes on with the last token of a text
* `FaultAt` — what holds at the offset of an error, and nowhere else

## Main results

* `continuesLast_iff_of_wellFormed` — what goes on with the last token of a layout
* `tokenize_of_faultAt`, `exists_faultAt_of_tokenize` — the error is that of the fault
* `tokenize_eq_error_iff_faultAt` — where and how the reading of a text fails
-/

namespace LogicLexer

open Lexeme

variable {config : Config} {layout : Layout} {text : Text} {offset : Nat} {c : Char}

/-- The last scan of a pass that found a token. -/
def Pass.lastFind? (pass : Pass) : Option Visit :=
  (pass.visits.filter fun visit => visit.token?.isSome).getLast?

/-- The last token of a text ends where the text does, and the character goes on with its
lexeme. -/
def ContinuesLast (config : Config) (text : Text) (c : Char) : Prop :=
  ∃ visit ∈ (pass config text.toArray 0).lastFind?,
    visit.next = text.length ∧ ∃ token ∈ visit.token?, Extends token.lexeme c

/-- The text is read up to an offset, and there stands a fault that does not go on with the
last token before it. -/
structure FaultAt (config : Config) (text : Text) (offset : Nat) : Prop where
  inside : offset < text.length
  before : ∃ tokens, tokenize config (text.take offset) = .ok tokens
  apart : ∀ c ∈ text[offset]?, ¬ ContinuesLast config (text.take offset) c
  fault : BeginsFaulty (text.drop offset)

/-! ### The last token of a layout -/

/-- The last visit of a layout finds the token of the last lexeme and ends where it does. -/
theorem Layout.getLast?_visits (config : Config) (offset : Nat) (layout : Layout) :
    (visits config offset layout.pieces).getLast?.map (fun visit => (visit.token?, visit.next)) =
      layout.lexemes.getLast?.map fun lexeme =>
        (some (Lexeme.token config lexeme), ((offset + layout.body.length : Nat) : Int)) := by
  induction layout using consInduction generalizing offset with
  | nil ending => rfl
  | cons gap lexeme layout ih =>
    have hrest := ih (offset + gap.length + lexeme.length)
    rw [length_body_cons, ← Nat.add_assoc, ← Nat.add_assoc]
    cases layout using consInduction with
    | nil ending => rfl
    | cons gap' next layout =>
      rw [lexemes_cons, lexemes_cons, List.getLast?_cons_cons]
      exact (congrArg (Option.map _) List.getLast?_cons_cons).trans hrest

/-- The last find in a well-formed layout is its last visit. -/
theorem lastFind?_of_wellFormed (config : Config) (h : layout.WellFormed) :
    (pass config layout.text.toArray 0).lastFind? =
      (Layout.visits config 0 layout.pieces).getLast? := by
  obtain ⟨others, hothers, hpass⟩ := pass_of_wellFormed config h
  -- the visit of the ending finds no token, and every other visit does
  have hblank : others.filter (fun visit => visit.token?.isSome) = [] := by
    rw [List.filter_eq_nil_iff]
    intro visit hvisit
    simp [List.filterMap_eq_nil_iff.1 hothers visit hvisit]
  have hfinds (offset : Nat) (pieces : List (Text × Text)) :
      (Layout.visits config offset pieces).filter (fun visit => visit.token?.isSome) =
        Layout.visits config offset pieces := by
    rw [List.filter_eq_self]
    induction pieces generalizing offset with
    | nil => exact fun visit hvisit => absurd hvisit List.not_mem_nil
    | cons piece rest ih => exact List.forall_mem_cons.2 ⟨rfl, ih _⟩
  rw [Pass.lastFind?, hpass, List.filter_append, hfinds, hblank, List.append_nil]

/-- What goes on with the last token of a layout: what goes on with its last lexeme, if no
gap follows it. -/
theorem continuesLast_iff_of_wellFormed (h : layout.WellFormed) :
    ContinuesLast config layout.text c ↔
      layout.ending = [] ∧ ∃ last ∈ layout.lexemes.getLast?, Extends last c := by
  have hlast := Layout.getLast?_visits config 0 layout
  rw [ContinuesLast, lastFind?_of_wellFormed config h]
  cases hlexeme : layout.lexemes.getLast? with
  | none =>
    rw [hlexeme, Option.map_none, Option.map_eq_none_iff] at hlast
    simp [hlast]
  | some last =>
    rw [hlexeme, Option.map_some, Option.map_eq_some_iff] at hlast
    obtain ⟨visit, hvisit, hfind⟩ := hlast
    obtain ⟨htoken, hnext⟩ := Prod.mk.inj hfind
    -- the last visit ends with the body, which is the whole text if the ending is empty
    have hends : visit.next = layout.text.length ↔ layout.ending = [] := by
      rw [hnext, layout.text_eq_body_append, List.length_append, ← List.length_eq_zero_iff]
      omega
    simp [hvisit, htoken, hends, token_lexeme]

/-! ### Faults and errors -/

/-- The text before a fault is laid out as far as the fault. -/
theorem FaultAt.exists_leads (h : FaultAt config text offset) :
    ∃ pieces gap, Layout.text ⟨pieces, gap⟩ = text.take offset ∧ IsGap gap ∧
      Layout.Leads ⟨pieces, gap ++ text.drop offset⟩ := by
  obtain ⟨tokens, hread⟩ := h.before
  obtain ⟨⟨pieces, gap⟩, hwell, htext, -⟩ := exists_wellFormed_of_tokenize hread
  obtain ⟨hleads, hgap⟩ := Layout.wellFormed_iff.1 hwell
  refine ⟨pieces, gap, htext, hgap, Layout.leads_append_iff.2 ⟨hleads, ?_⟩⟩
  intro hnil last hlast c hc hextends
  rw [List.head?_drop] at hc
  apply h.apart c hc
  rw [← htext, continuesLast_iff_of_wellFormed hwell]
  exact ⟨hnil, last, hlast, hextends⟩

/-- A text with a fault is not read, and the error is that of the fault. -/
theorem tokenize_of_faultAt (h : FaultAt config text offset) :
    tokenize config text =
      .error (.lexical (.ofFault offset (text.drop offset) (text.drop offset))) := by
  obtain ⟨pieces, gap, htext, hgap, hleads⟩ := h.exists_leads
  have herror := tokenize_of_fault config hleads hgap h.fault
  rwa [Layout.text_append, htext, List.take_append_drop,
    List.length_take_of_le (Nat.le_of_lt h.inside)] at herror

/-- A text that is not read has a fault. -/
theorem exists_faultAt_of_tokenize {failure : Failure}
    (h : tokenize config text = .error failure) : ∃ offset, FaultAt config text offset := by
  obtain ⟨⟨pieces, ending⟩, rfl, hleads, hgap | ⟨gap, rest, hending, hgap, hfault⟩⟩ :=
    Layout.exists_leads text
  · rw [tokenize_of_wellFormed config (Layout.wellFormed_iff.2 ⟨hleads, hgap⟩)] at h
    exact absurd h (by simp)
  · obtain rfl : ending = gap ++ rest := hending
    obtain ⟨hbefore, hapart⟩ := Layout.leads_append_iff.1 hleads
    have hwell : Layout.WellFormed ⟨pieces, gap⟩ := Layout.wellFormed_iff.2 ⟨hbefore, hgap⟩
    have htext := Layout.text_append pieces gap rest
    have htake : (Layout.text ⟨pieces, gap ++ rest⟩).take (Layout.text ⟨pieces, gap⟩).length =
        Layout.text ⟨pieces, gap⟩ := by
      rw [htext, List.take_left]
    have hdrop : (Layout.text ⟨pieces, gap ++ rest⟩).drop (Layout.text ⟨pieces, gap⟩).length =
        rest := by
      rw [htext, List.drop_left]
    refine ⟨(Layout.text ⟨pieces, gap⟩).length, ?_, ?_, ?_, hdrop.symm ▸ hfault⟩
    · have hpos := List.length_pos_iff.2 (ne_nil_of_beginsFaulty hfault)
      rw [htext, List.length_append]
      omega
    · exact ⟨_, htake.symm ▸ tokenize_of_wellFormed config hwell⟩
    · intro c hc hcontinues
      rw [← List.head?_drop, hdrop] at hc
      rw [htake, continuesLast_iff_of_wellFormed hwell] at hcontinues
      obtain ⟨hnil, last, hlast, hextends⟩ := hcontinues
      exact hapart hnil last hlast c hc hextends

/-- The reading of a text fails with nothing but lexical errors. -/
theorem exists_lexical_of_tokenize {failure : Failure}
    (h : tokenize config text = .error failure) : ∃ error, failure = .lexical error := by
  obtain ⟨offset, hfault⟩ := exists_faultAt_of_tokenize h
  exact ⟨_, Except.error.inj (h.symm.trans (tokenize_of_faultAt hfault))⟩

/-- The error of a fault says where the fault stands. -/
theorem LexError.offset_ofFault (position : Int) (context ahead : Text) :
    (ofFault position context ahead).diagnostic.offset = position := by
  unfold ofFault
  split <;> rfl

/-- The error of a fault carries the text from there on. -/
theorem LexError.context_ofFault (position : Int) (context ahead : Text) :
    (ofFault position context ahead).diagnostic.context = context := by
  unfold ofFault
  split <;> rfl

/-- A text has a fault at one offset at most. -/
theorem FaultAt.eq {left right : Nat} (hleft : FaultAt config text left)
    (hright : FaultAt config text right) : left = right := by
  -- a text has one error, and the error says where the fault stands
  have herror := (tokenize_of_faultAt hleft).symm.trans (tokenize_of_faultAt hright)
  have hoffset := congrArg (fun error : LexError => error.diagnostic.offset)
    (Failure.lexical.inj (Except.error.inj herror))
  simp only [LexError.offset_ofFault] at hoffset
  exact Int.ofNat.inj hoffset

/-- A text is not read exactly when it has a fault. The fault stands at a single offset, which
the error reports together with the text from there on, and the error is about the stray
character there or about a malformed numeral. -/
theorem tokenize_eq_error_iff_faultAt (config : Config) (text : Text) :
    ((∃ failure, tokenize config text = .error failure) ↔
      ∃ offset, FaultAt config text offset) ∧
    (∀ left right, FaultAt config text left → FaultAt config text right → left = right) ∧
    ∀ offset, FaultAt config text offset → ∃ error,
      tokenize config text = .error (.lexical error) ∧
      error.diagnostic.offset = offset ∧ error.diagnostic.context = text.drop offset ∧
      (BeginsStray (text.drop offset) →
        ∃ c ∈ text[offset]?, error.fault = .unrecognized [c] (text.drop offset)) ∧
      (BeginsMalformed (text.drop offset) → ∃ lexeme, error.fault = .malformed lexeme) := by
  refine ⟨⟨?_, ?_⟩, fun left right => FaultAt.eq, ?_⟩
  · rintro ⟨failure, h⟩
    exact exists_faultAt_of_tokenize h
  · rintro ⟨offset, h⟩
    exact ⟨_, tokenize_of_faultAt h⟩
  · intro offset h
    refine ⟨_, tokenize_of_faultAt h, LexError.offset_ofFault _ _ _,
      LexError.context_ofFault _ _ _, ?_, ?_⟩
    · rintro ⟨c, hc, hstray⟩
      obtain ⟨tail, htail⟩ := List.head?_eq_some_iff.1 hc
      refine ⟨c, List.head?_drop.symm.trans hc, ?_⟩
      rw [htail, LexError.ofFault_of_isStray hstray]
      rfl
    · intro hmalformed
      rw [LexError.ofFault_of_beginsMalformed hmalformed]
      exact ⟨_, rfl⟩

end LogicLexer
