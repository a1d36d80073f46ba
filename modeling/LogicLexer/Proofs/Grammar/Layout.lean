import LogicLexer.Grammar.Layout
import LogicLexer.Proofs.Grammar.Front

/-!
# The layouts of a text

A text has at most one well-formed layout. It has a layout whose lexemes obey the grammar
in any case, if the ending may be any text: the cutting stops where the text has come to
its end after some blanks, or at a fault.

## Main definitions

* `Layout.Leads` — the lexemes obey the grammar, whatever the ending is
* `Layout.Spaced` — the gaps are blank and the lexemes belong to the grammar, but nothing
  is said of what follows them

## Main results

* `Layout.consInduction` — layouts are built from an ending by adding lexemes in front
* `Layout.wellFormed_iff` — a layout is well formed if it leads to a blank ending
* `Layout.exists_leads` — every text can be laid out up to its end or its first fault
* `Layout.eq_of_lexemes_eq` — the text and the lexemes determine the gaps
* `Layout.eq_of_text_eq` — a text has at most one well-formed layout
-/

namespace LogicLexer.Layout

open Lexeme

variable {layout : Layout} {gap lexeme ending : Text} {pieces : List (Text × Text)}

/-- Layouts are built from an ending by adding lexemes in front. -/
@[elab_as_elim]
theorem consInduction {motive : Layout → Prop} (nil : ∀ ending, motive ⟨[], ending⟩)
    (cons : ∀ gap lexeme layout, motive layout → motive (layout.cons gap lexeme))
    (layout : Layout) : motive layout := by
  obtain ⟨pieces, ending⟩ := layout
  induction pieces with
  | nil => exact nil ending
  | cons piece rest ih => exact cons piece.1 piece.2 ⟨rest, ending⟩ ih

@[simp] theorem lexemes_nil : lexemes ⟨[], ending⟩ = [] := rfl

@[simp] theorem lexemes_cons : (layout.cons gap lexeme).lexemes = lexeme :: layout.lexemes := rfl

/-! ### Layouts before any ending -/

/-- The pieces obey the grammar before an ending that may be any text. -/
def LeadTo (ending : Text) : List (Text × Text) → Prop
  | [] => True
  | (gap, lexeme) :: rest =>
    IsGap gap ∧ IsLexeme lexeme ∧ (∀ c ∈ (text ⟨rest, ending⟩).head?, ¬ Extends lexeme c) ∧
      LeadTo ending rest

/-- The lexemes obey the grammar, whatever the ending is. -/
def Leads (layout : Layout) : Prop :=
  LeadTo layout.ending layout.pieces

theorem leads_nil : Leads ⟨[], ending⟩ := trivial

theorem leads_cons :
    (layout.cons gap lexeme).Leads ↔
      IsGap gap ∧ IsLexeme lexeme ∧ (∀ c ∈ layout.text.head?, ¬ Extends lexeme c) ∧
        layout.Leads := Iff.rfl

/-- A layout is well formed if it leads to a blank ending. -/
theorem wellFormed_iff : layout.WellFormed ↔ layout.Leads ∧ IsGap layout.ending := by
  induction layout using consInduction with
  | nil ending => exact ⟨fun h => ⟨leads_nil, h⟩, fun h => h.2⟩
  | cons gap lexeme layout ih =>
    rw [wellFormed_cons, leads_cons, ih]
    exact ⟨fun h => ⟨⟨h.1, h.2.1, h.2.2.1, h.2.2.2.1⟩, h.2.2.2.2⟩,
      fun h => ⟨h.1.1, h.1.2.1, h.1.2.2.1, h.1.2.2.2, h.2⟩⟩

/-- Text added to the ending stands at the end. -/
theorem text_append (pieces : List (Text × Text)) (ending more : Text) :
    text ⟨pieces, ending ++ more⟩ = text ⟨pieces, ending⟩ ++ more := by
  induction pieces with
  | nil => rfl
  | cons piece rest ih =>
    change piece.1 ++ piece.2 ++ text ⟨rest, ending ++ more⟩ =
      piece.1 ++ piece.2 ++ text ⟨rest, ending⟩ ++ more
    rw [ih, List.append_assoc _ _ more]

/-- What comes at the front of a text put together from two: the front of the first, and of
the second only if the first is empty. -/
theorem forall_mem_head?_append {left right : Text} {p : Char → Prop} :
    (∀ c ∈ (left ++ right).head?, p c) ↔
      (∀ c ∈ left.head?, p c) ∧ (left = [] → ∀ c ∈ right.head?, p c) := by
  cases left with
  | nil => simp
  | cons c left => simp

/-- Pieces lead to an ending that is cut in two if they lead to its first part, and the
second part does not go on with the last lexeme. -/
theorem leads_append_iff {more : Text} :
    Leads ⟨pieces, ending ++ more⟩ ↔
      Leads ⟨pieces, ending⟩ ∧ (ending = [] → ∀ last ∈ (pieces.map Prod.snd).getLast?,
        ∀ c ∈ more.head?, ¬ Extends last c) := by
  induction pieces with
  | nil => simp [leads_nil]
  | cons piece rest ih =>
    obtain ⟨gap, lexeme⟩ := piece
    change (IsGap gap ∧ IsLexeme lexeme ∧
        (∀ c ∈ (text ⟨rest, ending ++ more⟩).head?, ¬ Extends lexeme c) ∧
          Leads ⟨rest, ending ++ more⟩) ↔
      (IsGap gap ∧ IsLexeme lexeme ∧ (∀ c ∈ (text ⟨rest, ending⟩).head?, ¬ Extends lexeme c) ∧
        Leads ⟨rest, ending⟩) ∧ _
    rw [text_append, forall_mem_head?_append, ih]
    -- a lexeme before another one cannot see the ending
    cases rest with
    | nil =>
      constructor
      · rintro ⟨hgap, hlexeme, ⟨hending, hmore⟩, hrest, -⟩
        refine ⟨⟨hgap, hlexeme, hending, hrest⟩, ?_⟩
        intro hnil last hlast
        obtain rfl : lexeme = last := by simpa using hlast
        exact hmore hnil
      · rintro ⟨⟨hgap, hlexeme, hending, hrest⟩, hmore⟩
        refine ⟨hgap, hlexeme, ⟨hending, ?_⟩, hrest, ?_⟩
        · intro hnil
          exact hmore hnil lexeme rfl
        · intro _ last hlast
          exact absurd hlast (by simp)
    | cons next rest =>
      have hfilled (h : Leads ⟨next :: rest, ending⟩) : text ⟨next :: rest, ending⟩ ≠ [] := by
        intro hnil
        have hfirst := (List.append_eq_nil_iff.1 hnil).1
        exact ne_nil_of_isLexeme h.2.1 (List.append_eq_nil_iff.1 hfirst).2
      simp only [List.map_cons, List.getLast?_cons_cons]
      constructor
      · rintro ⟨hgap, hlexeme, ⟨hfollow, -⟩, hrest, hmore⟩
        exact ⟨⟨hgap, hlexeme, hfollow, hrest⟩, hmore⟩
      · rintro ⟨⟨hgap, hlexeme, hfollow, hrest⟩, hmore⟩
        refine ⟨hgap, hlexeme, ⟨hfollow, ?_⟩, hrest, hmore⟩
        intro hnil
        exact absurd hnil (hfilled hrest)

/-- The text of two rows of pieces is that of the first before the text of the second. -/
theorem text_pieces_append (pieces others : List (Text × Text)) (ending : Text) :
    text ⟨pieces ++ others, ending⟩ = text ⟨pieces, text ⟨others, ending⟩⟩ :=
  List.foldr_append

/-- Two rows of pieces lead to an ending if the second does, and the first leads to the text
of the second. -/
theorem leads_pieces_append {others : List (Text × Text)} :
    Leads ⟨pieces ++ others, ending⟩ ↔
      Leads ⟨pieces, text ⟨others, ending⟩⟩ ∧ Leads ⟨others, ending⟩ := by
  induction pieces with
  | nil => exact ⟨fun h => ⟨leads_nil, h⟩, fun h => h.2⟩
  | cons piece rest ih =>
    obtain ⟨gap, lexeme⟩ := piece
    change (IsGap gap ∧ IsLexeme lexeme ∧
        (∀ c ∈ (text ⟨rest ++ others, ending⟩).head?, ¬ Extends lexeme c) ∧
          Leads ⟨rest ++ others, ending⟩) ↔
      (IsGap gap ∧ IsLexeme lexeme ∧
        (∀ c ∈ (text ⟨rest, text ⟨others, ending⟩⟩).head?, ¬ Extends lexeme c) ∧
          Leads ⟨rest, text ⟨others, ending⟩⟩) ∧ Leads ⟨others, ending⟩
    rw [text_pieces_append, ih]
    simp only [and_assoc]

/-- Every text can be laid out up to its end or its first fault. -/
theorem exists_leads (source : Text) :
    ∃ layout : Layout, layout.text = source ∧ layout.Leads ∧
      (IsGap layout.ending ∨
        ∃ gap rest, layout.ending = gap ++ rest ∧ IsGap gap ∧ BeginsFaulty rest) := by
  -- what is left after a lexeme is shorter, though not the tail of the source
  induction hn : source.length using Nat.strongRecOn generalizing source with
  | ind n ih =>
    cases front source with
    | blank hgap => exact ⟨⟨[], source⟩, rfl, leads_nil, .inl hgap⟩
    | @fault gap rest hgap hfault =>
      exact ⟨⟨[], gap ++ rest⟩, rfl, leads_nil, .inr ⟨gap, rest, rfl, hgap, hfault⟩⟩
    | @lexeme gap lexeme rest hgap hlexeme hfollow =>
      have hpos := List.length_pos_iff.2 (ne_nil_of_isLexeme hlexeme)
      have hless : rest.length < n := by
        simp only [List.length_append] at hn
        omega
      obtain ⟨layout, rfl, hleads, hending⟩ := ih rest.length hless rest rfl
      exact ⟨layout.cons gap lexeme, rfl, leads_cons.2 ⟨hgap, hlexeme, hfollow, hleads⟩, hending⟩

/-! ### Uniqueness -/

/-- The gaps are blank and the lexemes belong to the grammar. -/
def Spaced (layout : Layout) : Prop :=
  (∀ piece ∈ layout.pieces, IsGap piece.1 ∧ IsLexeme piece.2) ∧ IsGap layout.ending

theorem spaced_cons :
    (layout.cons gap lexeme).Spaced ↔ (IsGap gap ∧ IsLexeme lexeme) ∧ layout.Spaced := by
  rw [Spaced, Spaced, ← and_assoc]
  exact and_congr_left fun _ => List.forall_mem_cons

/-- A well-formed layout is spaced. -/
theorem WellFormed.spaced (h : layout.WellFormed) : layout.Spaced := by
  induction layout using consInduction with
  | nil ending => exact ⟨by simp, h⟩
  | cons gap lexeme layout ih =>
    obtain ⟨hgap, hlexeme, -, hrest⟩ := wellFormed_cons.1 h
    exact spaced_cons.2 ⟨⟨hgap, hlexeme⟩, ih hrest⟩

/-- The lexemes of a well-formed layout belong to the grammar. -/
theorem WellFormed.isLexeme (h : layout.WellFormed) (hmem : lexeme ∈ layout.lexemes) :
    IsLexeme lexeme := by
  obtain ⟨piece, hpiece, rfl⟩ := List.mem_map.1 hmem
  exact (h.spaced.1 piece hpiece).2

/-- Two texts that begin with no blank show where the gaps before them end. -/
theorem gap_append_inj {left right lrest rrest : Text} (hleft : IsGap left) (hright : IsGap right)
    (hlrest : ∀ c ∈ lrest.head?, isBlank c = false) (hrrest : ∀ c ∈ rrest.head?, isBlank c = false)
    (h : left ++ lrest = right ++ rrest) : left = right ∧ lrest = rrest := by
  have hgaps : left = right := by
    rw [← takeWhile_append_eq hleft hlrest, h, takeWhile_append_eq hright hrrest]
  subst hgaps
  exact ⟨rfl, List.append_cancel_left h⟩

/-- No blank stands where a lexeme begins. -/
theorem isBlank_head?_eq_false (h : IsLexeme lexeme) (rest : Text) :
    ∀ c ∈ (lexeme ++ rest).head?, isBlank c = false := by
  obtain ⟨c, tail, rfl, hc⟩ := exists_cons_of_isLexeme h
  intro d hd
  obtain rfl : c = d := by simpa using hd
  exact hc

/-- A text with a lexeme is more than a gap. -/
theorem not_isGap_text_cons (h : IsLexeme lexeme) : ¬ IsGap (layout.cons gap lexeme).text := by
  obtain ⟨c, tail, rfl, hc⟩ := exists_cons_of_isLexeme h
  rw [text_cons, isGap_append, isGap_append]
  rintro ⟨⟨-, hgap⟩, -⟩
  exact Bool.false_ne_true (hc.symm.trans (hgap c List.mem_cons_self))

/-- Two spaced layouts of one text begin with the same gap. -/
theorem text_cons_inj {gap' lexeme' : Text} {layout' : Layout} (h : IsGap gap ∧ IsLexeme lexeme)
    (h' : IsGap gap' ∧ IsLexeme lexeme')
    (htext : (layout.cons gap lexeme).text = (layout'.cons gap' lexeme').text) :
    gap = gap' ∧ lexeme ++ layout.text = lexeme' ++ layout'.text := by
  rw [text_cons, text_cons, List.append_assoc, List.append_assoc] at htext
  exact gap_append_inj h.1 h'.1 (isBlank_head?_eq_false h.2 _) (isBlank_head?_eq_false h'.2 _) htext

/-- The text and the lexemes determine the gaps. -/
theorem eq_of_lexemes_eq {left right : Layout} (hleft : left.Spaced) (hright : right.Spaced)
    (hlexemes : left.lexemes = right.lexemes) (htext : left.text = right.text) : left = right := by
  induction left using consInduction generalizing right with
  | nil ending =>
    cases right using consInduction with
    | nil ending' => exact congrArg (Layout.mk []) htext
    | cons gap' lexeme' right => simp at hlexemes
  | cons gap lexeme left ih =>
    cases right using consInduction with
    | nil ending' => simp at hlexemes
    | cons gap' lexeme' right =>
      obtain ⟨hl, hlrest⟩ := spaced_cons.1 hleft
      obtain ⟨hr, hrrest⟩ := spaced_cons.1 hright
      obtain ⟨rfl, hrest⟩ := text_cons_inj hl hr htext
      obtain ⟨rfl, htail⟩ : lexeme = lexeme' ∧ left.lexemes = right.lexemes := by
        simpa using hlexemes
      rw [ih hlrest hrrest htail (List.append_cancel_left hrest)]

/-- A text has at most one well-formed layout. -/
theorem eq_of_text_eq {left right : Layout} (hleft : left.WellFormed) (hright : right.WellFormed)
    (htext : left.text = right.text) : left = right := by
  induction left using consInduction generalizing right with
  | nil ending =>
    cases right using consInduction with
    | nil ending' => exact congrArg (Layout.mk []) htext
    | cons gap' lexeme' right =>
      have hgap : IsGap (right.cons gap' lexeme').text := htext ▸ wellFormed_nil.1 hleft
      exact absurd hgap (not_isGap_text_cons (wellFormed_cons.1 hright).2.1)
  | cons gap lexeme left ih =>
    obtain ⟨hgap, hlexeme, hfollow, hlrest⟩ := wellFormed_cons.1 hleft
    cases right using consInduction with
    | nil ending' =>
      have hgap : IsGap (left.cons gap lexeme).text := htext ▸ wellFormed_nil.1 hright
      exact absurd hgap (not_isGap_text_cons hlexeme)
    | cons gap' lexeme' right =>
      obtain ⟨hgap', hlexeme', hfollow', hrrest⟩ := wellFormed_cons.1 hright
      -- the gaps end at the first character that is no blank, the lexemes where nothing
      -- extends them
      obtain ⟨rfl, hrest⟩ := text_cons_inj ⟨hgap, hlexeme⟩ ⟨hgap', hlexeme'⟩ htext
      obtain rfl := eq_of_append_eq hlexeme hlexeme' hrest hfollow hfollow'
      rw [ih hlrest hrrest (List.append_cancel_left hrest)]

end LogicLexer.Layout
