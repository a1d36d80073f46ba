import LogicLexer.Proofs.Scanner.Fault

/-!
# The progress of a scan

A scan that comes to a result has read on from where it began. It passed over the text ahead
as far as the end of its lexeme, or to the end of the source if nothing but blanks was left.
So it always moves, never past the end, and each token takes a character that is no blank.

## Main definitions

* `Source.BlankFrom` — nothing but blanks from a position to the end of the source

## Main results

* `ahead_of_scan` — the text that a scan has passed over
* `progress_of_scan` — how far a scan moves, and when it finds no token
* `countP_ahead_lt_of_scan` — a token takes a character that is no blank
-/

namespace LogicLexer

open Lexeme

/-- Every character from the position to the end of the source is a blank. From a negative
position these are the last characters of the source, and then all of them. -/
def Source.BlankFrom (source : Source) (position : Int) : Prop :=
  ∀ i, position ≤ i → i < source.size → ∃ c, source.charAt i = .ok c ∧ isBlank c = true

variable {config : Config} {source : Source} {position next : Int} {token? : Option Token}

/-- From a position in the source only blanks are left exactly if the text ahead is a gap. -/
theorem Source.blankFrom_iff (hbound : -source.size ≤ position) (hle : position ≤ source.size) :
    source.BlankFrom position ↔ IsGap (source.ahead position) := by
  have hlength := length_ahead hbound hle
  constructor
  · intro hblank c hc
    obtain ⟨n, hn, rfl⟩ := List.mem_iff_getElem.1 hc
    obtain ⟨d, hd, hblank⟩ := hblank (position + n) (by omega) (by omega)
    rw [charAt_eq_ok_iff, index?_add hbound, List.getElem?_eq_getElem hn] at hd
    rwa [Option.some.inj hd]
  · intro hgap i hfirst hlast
    obtain ⟨n, rfl⟩ := Int.le.dest hfirst
    have hn : n < (source.ahead position).length := by omega
    refine ⟨(source.ahead position)[n], ?_, hgap _ (List.getElem_mem hn)⟩
    rw [charAt_eq_ok_iff, index?_add hbound, List.getElem?_eq_getElem hn]

/-- A scan that finds no token has passed over blanks to the end of the source, and one that
finds a token over a gap and a lexeme. -/
theorem ahead_of_scan (hbound : -source.size ≤ position)
    (h : scan config source position = .ok (token?, next)) :
    (token? = none ∧ IsGap (source.ahead position) ∧
      next = position + (source.ahead position).length) ∨
    ∃ gap lexeme, token?.isSome = true ∧ IsLexeme lexeme ∧
      source.ahead position = gap ++ lexeme ++ source.ahead next ∧
      next = position + (gap ++ lexeme).length := by
  generalize hahead : source.ahead position = ahead
  cases front ahead with
  | blank hgap =>
    rw [scan_of_gap hbound (hahead.symm ▸ hgap), hahead] at h
    obtain ⟨rfl, rfl⟩ := Prod.mk.inj (Except.ok.inj h)
    exact .inl ⟨rfl, hgap, rfl⟩
  | @lexeme gap lexeme rest hgap hlexeme hfollow =>
    have hrest := Source.ahead_add_length hbound hahead
    rw [scan_of_gap_lexeme hbound hgap hlexeme hahead hfollow] at h
    obtain ⟨rfl, rfl⟩ := Prod.mk.inj (Except.ok.inj h)
    have hend : position + gap.length + lexeme.length = position + (gap ++ lexeme).length := by
      rw [List.length_append]
      omega
    exact .inr ⟨gap, lexeme, rfl, hlexeme, by rw [hend, hrest], hend⟩
  | fault hgap hfault =>
    rw [scan_of_fault hbound hgap hfault hahead] at h
    cases h

/-- A scan that begins in the source moves, but not past the end. It finds no token exactly if
nothing but blanks is left, and then it comes to the end. -/
theorem progress_of_scan (hbound : -source.size ≤ position) (hlt : position < source.size)
    (h : scan config source position = .ok (token?, next)) :
    position < next ∧ next ≤ source.size ∧ (token? = none ↔ source.BlankFrom position) ∧
      (token? = none → next = source.size) := by
  have hlength := Source.length_ahead hbound (Int.le_of_lt hlt)
  rw [Source.blankFrom_iff hbound (Int.le_of_lt hlt)]
  refine ⟨lt_of_scan h hlt, ?_⟩
  rcases ahead_of_scan hbound h with ⟨rfl, hgap, rfl⟩ | ⟨gap, lexeme, hsome, hlexeme, hahead, rfl⟩
  · exact ⟨by omega, iff_of_true rfl hgap, fun _ => by omega⟩
  · obtain ⟨token, rfl⟩ := Option.isSome_iff_exists.1 hsome
    have hsplit := congrArg List.length hahead
    rw [List.length_append] at hsplit
    refine ⟨by omega, iff_of_false (Option.some_ne_none token) ?_, fun hnone => by simp at hnone⟩
    -- the first character of the lexeme is among those ahead
    intro hgap
    obtain ⟨c, rest, rfl, hc⟩ := exists_cons_of_isLexeme hlexeme
    have := hgap c (by simp [hahead])
    simp [hc] at this

/-- A scan that finds a token leaves fewer characters ahead that are no blanks. -/
theorem countP_ahead_lt_of_scan {token : Token} (hbound : -source.size ≤ position)
    (h : scan config source position = .ok (some token, next)) :
    (source.ahead next).countP (fun c => !isBlank c) <
      (source.ahead position).countP (fun c => !isBlank c) := by
  rcases ahead_of_scan hbound h with ⟨hnone, -, -⟩ | ⟨gap, lexeme, -, hlexeme, hahead, -⟩
  · cases hnone
  · obtain ⟨c, rest, rfl, hc⟩ := exists_cons_of_isLexeme hlexeme
    have hpos : 0 < (c :: rest).countP (fun c => !isBlank c) :=
      List.countP_pos_iff.2 ⟨c, List.mem_cons_self, by simp [hc]⟩
    rw [hahead, List.countP_append, List.countP_append]
    omega

end LogicLexer
