import LogicLexer.Proofs.Tokenize.FirstFault

/-!
# Text added at the end

A text grows at its end, as it does while it is written. What has been read stays as it is
but for the last token, which may go on into the added text, and a text that fails goes on
failing at the same place. So every text before the end of one that is read is read as
well, and an error that only comes with the added text does not stand before the last
token.

## Main definitions

* `Visit.start?`, `Pass.lastStart?` — where a token begins, and where the last one does
* `EndsBlank` — a text that ends in a blank
* `Fault.GrowsTo` — what becomes of a fault

## Main results

* `tokenize_of_leads` — what is known of a text when the lexemes at its front are
* `tokenize_append_of_error` — errors stay where they are
* `prefix_of_tokenize_append` — tokens stay what they are, but for the last
* `le_offset_of_tokenize_append` — errors that come with added text stand in it or in the
  last token
-/

namespace LogicLexer

open Lexeme

variable {config : Config} {text more : Text} {tokens found : List Token} {failure : Failure}

/-- Where the token of a scan begins, if the scan found one: its lexeme ends with the
scan. -/
def Visit.start? (visit : Visit) : Option Int :=
  visit.token?.map fun token => visit.next - token.lexeme.length

/-- Where the last token that a pass found begins. -/
def Pass.lastStart? (pass : Pass) : Option Int :=
  pass.lastFind?.bind Visit.start?

/-- The text ends in a blank. -/
def EndsBlank (text : Text) : Prop :=
  ∃ c ∈ text.getLast?, isBlank c = true

/-- What becomes of a fault: a stray character stays the same, and the lexeme of a malformed
numeral can only become longer. -/
def Fault.GrowsTo : Fault → Fault → Prop
  | .unrecognized char _, .unrecognized other _ => char = other
  | .malformed lexeme, .malformed other => lexeme <+: other
  | _, _ => False

/-! ### Lexemes at the front of a text -/

section Leads

variable {pieces : List (Text × Text)} {gap lexeme ending rest : Text}

/-- A text is read as the lexemes that lead to its ending and then as something else, or
the reading fails in the ending. -/
theorem tokenize_of_leads (config : Config) (hleads : Layout.Leads ⟨pieces, ending⟩) :
    (∃ others, tokenize config (Layout.text ⟨pieces, ending⟩) =
        .ok (Layout.tokens config ⟨pieces, ending⟩ ++ others)) ∨
      ∃ before fault, ending = before ++ fault ∧ BeginsFaulty fault ∧
        tokenize config (Layout.text ⟨pieces, ending⟩) =
          .error (.lexical (.ofFault (Layout.text ⟨pieces, before⟩).length fault fault)) := by
  -- the ending is laid out in turn, up to its own end or its first fault
  obtain ⟨⟨others, last⟩, rfl, hothers, hgap | ⟨gap, fault, hlast, hgap, hfault⟩⟩ :=
    Layout.exists_leads ending
  · have hwell : Layout.WellFormed ⟨pieces ++ others, last⟩ :=
      Layout.wellFormed_iff.2 ⟨Layout.leads_pieces_append.2 ⟨hleads, hothers⟩, hgap⟩
    have hread := tokenize_of_wellFormed config hwell
    rw [Layout.text_pieces_append] at hread
    refine .inl ⟨Layout.tokens config ⟨others, last⟩, hread.trans (congrArg Except.ok ?_)⟩
    simp only [Layout.tokens, Layout.lexemes, List.map_append]
  · obtain rfl : last = gap ++ fault := hlast
    have herror := tokenize_of_fault config (Layout.leads_pieces_append.2 ⟨hleads, hothers⟩) hgap
      hfault
    rw [Layout.text_pieces_append, Layout.text_pieces_append] at herror
    exact .inr ⟨_, fault, Layout.text_append others gap fault, hfault, herror⟩

/-- The tokens of lexemes that lead to an ending come first. -/
theorem prefix_of_leads (hleads : Layout.Leads ⟨pieces, ending⟩)
    (h : tokenize config (Layout.text ⟨pieces, ending⟩) = .ok found) :
    Layout.tokens config ⟨pieces, ending⟩ <+: found := by
  rcases tokenize_of_leads config hleads with ⟨others, hread⟩ | ⟨_, _, _, _, herror⟩
  · exact ⟨others, Except.ok.inj (hread.symm.trans h)⟩
  · exact absurd (herror.symm.trans h) (by simp)

/-- An error stands behind the lexemes that lead to an ending, and behind the blanks after
them. -/
theorem le_offset_of_leads {error : LexError} (hgap : IsGap gap)
    (hleads : Layout.Leads ⟨pieces, gap ++ rest⟩)
    (h : tokenize config (Layout.text ⟨pieces, gap ++ rest⟩) = .error (.lexical error)) :
    ((Layout.text ⟨pieces, gap⟩).length : Int) ≤ error.diagnostic.offset := by
  rcases tokenize_of_leads config hleads with
    ⟨others, hread⟩ | ⟨before, fault, hsplit, hfault, herror⟩
  · exact absurd (hread.symm.trans h) (by simp)
  · have hle := length_le_of_beginsFaulty hgap hfault hsplit
    rw [← Failure.lexical.inj (Except.error.inj (herror.symm.trans h)), LexError.offset_ofFault,
      Layout.text_eq_body_append ⟨pieces, gap⟩, Layout.text_eq_body_append ⟨pieces, before⟩,
      List.length_append, List.length_append]
    exact Int.ofNat_le.2 (Nat.add_le_add_left hle _)

/-! ### The last lexeme -/

theorem Layout.text_concat (pieces : List (Text × Text)) (gap lexeme ending : Text) :
    Layout.text ⟨pieces ++ [(gap, lexeme)], ending⟩ =
      Layout.text ⟨pieces, gap⟩ ++ (lexeme ++ ending) := by
  rw [text_pieces_append, ← text_append, ← List.append_assoc]
  rfl

/-- Text added to a layout belongs to its last lexeme and what follows. -/
theorem Layout.text_concat_append (pieces : List (Text × Text)) (gap lexeme ending more : Text) :
    Layout.text ⟨pieces ++ [(gap, lexeme)], ending⟩ ++ more =
      Layout.text ⟨pieces, gap ++ (lexeme ++ ending ++ more)⟩ := by
  rw [text_concat, List.append_assoc, ← text_append]

/-- Added text leaves all lexemes but the last as they are. -/
theorem Layout.Leads.append_of_concat (h : Leads ⟨pieces ++ [(gap, lexeme)], ending⟩)
    (more : Text) : Leads ⟨pieces, gap ++ (lexeme ++ ending ++ more)⟩ := by
  obtain ⟨hleads, hlast⟩ := leads_pieces_append.1 h
  have hlexeme : IsLexeme lexeme := hlast.2.1
  have hne : gap ++ lexeme ++ ending ≠ [] := by simp [ne_nil_of_isLexeme hlexeme]
  have hmore : Leads ⟨pieces, gap ++ lexeme ++ ending ++ more⟩ :=
    leads_append_iff.2 ⟨hleads, fun hnil => absurd hnil hne⟩
  rwa [List.append_assoc gap, List.append_assoc gap] at hmore

/-- Behind a blank, and where there is no lexeme at all, added text leaves every lexeme as
it is. -/
theorem Layout.WellFormed.leads_append (h : WellFormed ⟨pieces, ending⟩)
    (hapart : pieces = [] ∨ EndsBlank (Layout.text ⟨pieces, ending⟩)) (more : Text) :
    Leads ⟨pieces, ending ++ more⟩ := by
  refine leads_append_iff.2 ⟨(wellFormed_iff.1 h).1, ?_⟩
  intro hnil last hlast
  subst hnil
  rcases List.eq_nil_or_concat pieces with rfl | ⟨others, ⟨gap, lexeme⟩, rfl⟩
  · simp at hlast
  · rw [List.concat_eq_append] at h hapart
    have hlexeme : IsLexeme lexeme := h.isLexeme (by simp [lexemes])
    -- the text ends with a lexeme, and so not in a blank
    obtain hpieces | ⟨c, hc, hblank⟩ := hapart
    · simp at hpieces
    · have hne := ne_nil_of_isLexeme hlexeme
      rw [text_concat, List.append_nil, List.getLast?_append, List.getLast?_eq_some_getLast hne,
        Option.some_or] at hc
      obtain rfl : lexeme.getLast hne = c := Option.some.inj hc
      have := isBlank_eq_false_of_mem_isLexeme hlexeme (List.getLast_mem hne)
      simp [this] at hblank

/-- The last token of a well-formed layout begins where its last lexeme is laid out. -/
theorem lastStart?_of_wellFormed (config : Config)
    (h : Layout.WellFormed ⟨pieces ++ [(gap, lexeme)], ending⟩) :
    (pass config (Layout.text ⟨pieces ++ [(gap, lexeme)], ending⟩).toArray 0).lastStart? =
      some ((Layout.text ⟨pieces, gap⟩).length : Int) := by
  have hlast := Layout.getLast?_visits config 0 ⟨pieces ++ [(gap, lexeme)], ending⟩
  have hlexeme : (Layout.lexemes ⟨pieces ++ [(gap, lexeme)], ending⟩).getLast? = some lexeme := by
    simp [Layout.lexemes]
  rw [hlexeme, Option.map_some, Option.map_eq_some_iff] at hlast
  obtain ⟨visit, hvisit, hfind⟩ := hlast
  obtain ⟨htoken, hnext⟩ := Prod.mk.inj hfind
  rw [Pass.lastStart?, lastFind?_of_wellFormed config h, hvisit, Option.bind_some, Visit.start?,
    htoken, hnext, Option.map_some, token_lexeme, Layout.body, Layout.text_concat]
  simp

end Leads

/-! ### Errors -/

theorem Lexeme.seeded_prefix {left right : Text} (h : left <+: right) :
    seeded left <+: seeded right := by
  cases left with
  | nil => exact List.nil_prefix
  | cons c left =>
    obtain ⟨rest, rfl⟩ := h
    rw [List.cons_append, seeded, seeded]
    split <;> exact ⟨rest, rfl⟩

/-- The error of a fault grows with the text after the fault. -/
theorem LexError.growsTo_ofFault {fault : Text} (h : BeginsFaulty fault) (more : Text)
    (position : Int) :
    (ofFault position fault fault).fault.GrowsTo
      (ofFault position (fault ++ more) (fault ++ more)).fault := by
  rcases h with ⟨c, hc, hstray⟩ | hmalformed
  · obtain ⟨rest, rfl⟩ := List.head?_eq_some_iff.1 hc
    rw [List.cons_append, ofFault_of_isStray hstray, ofFault_of_isStray hstray]
    rfl
  · rw [ofFault_of_beginsMalformed hmalformed, ofFault_of_beginsMalformed (hmalformed.append more)]
    exact seeded_prefix (numeralRun_prefix_append fault more)

/-- An error stays where it is. -/
theorem tokenize_append_of_error (h : tokenize config text = .error failure) (more : Text) :
    ∃ error grown, failure = .lexical error ∧
      tokenize config (text ++ more) = .error (.lexical grown) ∧
      grown.diagnostic.offset = error.diagnostic.offset ∧ error.fault.GrowsTo grown.fault := by
  obtain ⟨⟨pieces, ending⟩, rfl, hleads, hgap | ⟨gap, fault, hending, hgap, hfault⟩⟩ :=
    Layout.exists_leads text
  · rw [tokenize_of_wellFormed config (Layout.wellFormed_iff.2 ⟨hleads, hgap⟩)] at h
    exact absurd h (by simp)
  · obtain rfl : ending = gap ++ fault := hending
    have hne : gap ++ fault ≠ [] :=
      List.append_ne_nil_of_right_ne_nil gap (ne_nil_of_beginsFaulty hfault)
    -- the fault keeps the last lexeme apart from what is added
    have hgrown : Layout.Leads ⟨pieces, gap ++ (fault ++ more)⟩ := by
      rw [← List.append_assoc]
      exact Layout.leads_append_iff.2 ⟨hleads, fun hnil => absurd hnil hne⟩
    have herror := tokenize_of_fault config hleads hgap hfault
    have hmore := tokenize_of_fault config hgrown hgap (hfault.append more)
    rw [← List.append_assoc, Layout.text_append] at hmore
    refine ⟨_, _, Except.error.inj (h.symm.trans herror), hmore, ?_,
      LexError.growsTo_ofFault hfault more _⟩
    rw [LexError.offset_ofFault, LexError.offset_ofFault]

/-- An error that comes with added text stands nowhere before the last token, and not before
the added text if there is no token or a blank behind it. -/
theorem le_offset_of_tokenize_append {error : LexError} (h : tokenize config text = .ok tokens)
    (hmore : tokenize config (text ++ more) = .error (.lexical error)) :
    (tokens ≠ [] → ∃ start ∈ (pass config text.toArray 0).lastStart?,
      start ≤ error.diagnostic.offset) ∧
    (tokens = [] ∨ EndsBlank text → (text.length : Int) ≤ error.diagnostic.offset) := by
  obtain ⟨⟨pieces, ending⟩, hwell, rfl, rfl⟩ := exists_wellFormed_of_tokenize h
  obtain ⟨hleads, hending⟩ := Layout.wellFormed_iff.1 hwell
  constructor
  · intro hne
    rcases List.eq_nil_or_concat pieces with rfl | ⟨others, ⟨gap, lexeme⟩, rfl⟩
    · exact absurd rfl hne
    · rw [List.concat_eq_append] at hwell hleads hmore ⊢
      rw [Layout.text_concat_append] at hmore
      have hgap : IsGap gap := (Layout.leads_pieces_append.1 hleads).2.1
      exact ⟨_, lastStart?_of_wellFormed config hwell,
        le_offset_of_leads hgap (hleads.append_of_concat more) hmore⟩
  · intro hapart
    rw [← Layout.text_append] at hmore
    refine le_offset_of_leads hending (hwell.leads_append (hapart.imp_left ?_) more) hmore
    intro hnil
    simpa [Layout.tokens, Layout.lexemes] using hnil

/-! ### Tokens -/

/-- Added text leaves the tokens but for the last as they are, and the last one too behind a
blank. -/
theorem prefix_of_tokenize_append (h : tokenize config text = .ok tokens)
    (hmore : tokenize config (text ++ more) = .ok found) :
    tokens.dropLast <+: found ∧ (EndsBlank text → tokens <+: found) := by
  obtain ⟨⟨pieces, ending⟩, hwell, rfl, rfl⟩ := exists_wellFormed_of_tokenize h
  constructor
  · rcases List.eq_nil_or_concat pieces with rfl | ⟨others, ⟨gap, lexeme⟩, rfl⟩
    · exact List.nil_prefix
    · rw [List.concat_eq_append] at hwell hmore ⊢
      rw [Layout.text_concat_append] at hmore
      have hleads := (Layout.wellFormed_iff.1 hwell).1.append_of_concat more
      have hprefix := prefix_of_leads hleads hmore
      simpa [Layout.tokens, Layout.lexemes] using hprefix
  · intro hblank
    rw [← Layout.text_append] at hmore
    have hprefix := prefix_of_leads (hwell.leads_append (.inr hblank) more) hmore
    exact hprefix

/-- Text added at the end never repairs an error and never changes a token but the last. An
error stays at its offset, and so what stands before the end of a text that is read is read
as well. An error that comes with the added text does not stand before the last token. -/
theorem tokenize_append (config : Config) (text more : Text) :
    (∀ failure, tokenize config text = .error failure → ∃ error grown,
      failure = .lexical error ∧ tokenize config (text ++ more) = .error (.lexical grown) ∧
      grown.diagnostic.offset = error.diagnostic.offset ∧ error.fault.GrowsTo grown.fault) ∧
    (∀ found, tokenize config (text ++ more) = .ok found →
      ∃ tokens, tokenize config text = .ok tokens ∧
        tokens.dropLast <+: found ∧ (EndsBlank text → tokens <+: found)) ∧
    ∀ tokens failure, tokenize config text = .ok tokens →
      tokenize config (text ++ more) = .error failure → ∃ error, failure = .lexical error ∧
        (tokens ≠ [] → ∃ start ∈ (pass config text.toArray 0).lastStart?,
          start ≤ error.diagnostic.offset) ∧
        (tokens = [] ∨ EndsBlank text → (text.length : Int) ≤ error.diagnostic.offset) := by
  refine ⟨fun failure h => tokenize_append_of_error h more, ?_, ?_⟩
  · intro found hfound
    cases h : tokenize config text with
    | error failure =>
      obtain ⟨_, grown, -, hgrown, -⟩ := tokenize_append_of_error h more
      exact absurd (hgrown.symm.trans hfound) (by simp)
    | ok tokens => exact ⟨tokens, rfl, prefix_of_tokenize_append h hfound⟩
  · intro tokens failure h hmore
    obtain ⟨error, rfl⟩ := exists_lexical_of_tokenize hmore
    exact ⟨error, rfl, le_offset_of_tokenize_append h hmore⟩

end LogicLexer
