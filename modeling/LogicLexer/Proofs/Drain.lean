import LogicLexer.Drain
import LogicLexer.Proofs.Settling
import LogicLexer.Proofs.Scanner.Finding

/-!
# Draining a text and reading it by position

A source can be read by moving a position through it, or by taking tokens off the front of
what is left. Both come to the same tokens and to the same error. Only the offset of the
error is counted from different places: from the beginning of the source, or from the
beginning of what was left.

## Main definitions

* `LexError.moved`, `Failure.moved` — an error with its offset counted from another place
* `Drain.left` — what a drain leaves of its text
* `Drains` — scanning the front of what is left again and again, until it comes to an end

## Main results

* `scanFront_suffix` — one scan of what is left from a position on
* `drain_suffix` — a pass from a position on, as a drain of what is left there
* `drains_drain` — draining comes to an end
* `drain_agrees` — the two ways of reading a text agree
-/

namespace LogicLexer

open Lexeme

variable {config : Config} {source : Source} {text rest : Text}

/-! ### Offsets counted from another place -/

/-- The error with its offset moved by a distance and everything else kept. -/
def LexError.moved (distance : Int) (error : LexError) : LexError :=
  { error with
    diagnostic := { error.diagnostic with offset := error.diagnostic.offset + distance } }

/-- The failure with the offset of its error moved by a distance. Other failures have no
offset. -/
def Failure.moved (distance : Int) : Failure → Failure
  | .lexical error => .lexical (error.moved distance)
  | failure => failure

theorem LexError.moved_ofFault (distance position : Int) (context ahead : Text) :
    (ofFault position context ahead).moved distance =
      ofFault (position + distance) context ahead := by
  unfold ofFault
  split <;> rfl

theorem Failure.moved_moved_neg (distance : Int) (failure : Failure) :
    (failure.moved (-distance)).moved distance = failure := by
  cases failure with
  | lexical error => simp only [moved, LexError.moved, Int.neg_add_cancel_right]
  | _ => rfl

/-! ### One scan -/

/-- A scan of what is left from an offset on finds and leaves what the scan from that offset
does, and fails with the same error, its offset counted from there. -/
theorem scanFront_suffix (config : Config) (source : Source) (n : Nat) :
    scanFront config (source.suffix n) =
      ((scan config source n).map fun found => (found.1, source.suffix found.2)).mapError
        (Failure.moved (-n)) := by
  obtain ⟨finding, -, hscan⟩ := exists_finding (source.suffix n)
  have hfront : scan config (source.suffix n).toArray 0 = finding.outcome config 0 :=
    hscan config _ 0 (ahead_zero_toArray _)
  have hsuffix (k : Nat) : Source.suffix (source.suffix n).toArray k =
      source.suffix ((n + k : Nat) : Int) := by
    rw [Source.suffix_eq_ahead, Source.suffix_eq_ahead, Source.suffix_eq_ahead, Int.natCast_add,
      Source.ahead_add (by omega), Source.ahead_natCast]
  rw [scanFront, hfront, hscan config source n (source.suffix_eq_ahead n).symm]
  cases finding with
  | blank gap =>
    refine congrArg (fun left => Except.ok (none, left)) ?_
    rw [hsuffix, Nat.zero_add]
  | lexeme gap text rest =>
    refine congrArg (fun left => Except.ok (some (token config text), left)) ?_
    rw [hsuffix, Nat.zero_add, Nat.add_assoc]
  | fault gap rest =>
    refine congrArg (fun error => Except.error (Failure.lexical error)) ?_
    rw [LexError.moved_ofFault]
    congr 1
    omega

/-- A scan from an offset fails with nothing but lexical errors. -/
theorem exists_lexical_of_scan {n : Nat} {failure : Failure}
    (h : scan config source n = .error failure) : ∃ error, failure = .lexical error :=
  (settles_scan (by omega)).exists_lexical h

/-! ### Draining to the end -/

/-- What a drain leaves of its text: what its last scan left, or all of it. -/
def Drain.left (text : Text) (drain : Drain) : Text :=
  (drain.steps.getLast?.map Prod.snd).getD text

theorem Drain.left_cons (token? : Option Token) (drain : Drain) :
    left text ⟨(token?, rest) :: drain.steps, drain.failure?⟩ = left rest drain := by
  rw [left, left, List.getLast?_cons]
  cases drain.steps.getLast? <;> rfl

/-- Scanning the front of what is left again and again comes to an end: nothing is left, or a
scan fails. -/
inductive Drains (config : Config) : Text → Drain → Prop
  | empty : Drains config [] ⟨[], none⟩
  | fails {text : Text} {failure : Failure} : text ≠ [] →
      scanFront config text = .error failure → Drains config text ⟨[], some failure⟩
  | scans {text rest : Text} {token? : Option Token} {drain : Drain} : text ≠ [] →
      scanFront config text = .ok (token?, rest) → Drains config rest drain →
      Drains config text ⟨(token?, rest) :: drain.steps, drain.failure?⟩

/-- Every text is drained. -/
theorem drains_drain (config : Config) (text : Text) :
    Drains config text (drain config text) := by
  -- what a scan leaves is shorter, though not the tail of the text
  induction hn : text.length using Nat.strongRecOn generalizing text with
  | ind n ih =>
    by_cases hne : text = []
    · subst hne
      rw [drain_nil]
      exact .empty
    · cases hscan : scanFront config text with
      | error failure =>
        rw [drain_of_error hne hscan]
        exact .fails hne hscan
      | ok found =>
        have hless : found.2.length < n := hn ▸ length_lt_of_scanFront hscan hne
        rw [drain_of_ok hne hscan]
        exact .scans hne hscan (ih _ hless found.2 rfl)

/-- What is left from an offset on is drained by the scans of a pass from there, each leaving
what is left where it ended. The pass fails exactly if the drain does, and the offsets of the
two errors differ by what has been read of the source. -/
theorem drain_suffix (config : Config) {n : Nat} (hn : n ≤ source.size) :
    (drain config (source.suffix n)).steps = (pass config source n).visits.map
        (fun visit => (visit.token?, source.suffix visit.next)) ∧
      (pass config source n).failure? = (drain config (source.suffix n)).failure?.map
        (Failure.moved (source.size -
          ((drain config (source.suffix n)).left (source.suffix n)).length)) := by
  induction hk : source.size - n using Nat.strongRecOn generalizing n with
  | ind k ih =>
    have hlength : (source.suffix n).length = source.size - n := by
      rw [Source.suffix_natCast source hn, List.length_drop]
      exact congrArg (· - n) Array.length_toList
    by_cases hlt : n < source.size
    · have hpos : (n : Int) < source.size := Int.ofNat_lt.2 hlt
      have hne : source.suffix n ≠ [] := by
        intro hnil
        rw [hnil, List.length_nil] at hlength
        omega
      have hfront := scanFront_suffix config source n
      cases hscan : scan config source n with
      | error failure =>
        rw [hscan] at hfront
        rw [pass_of_error hpos hscan, drain_of_error hne hfront]
        refine ⟨rfl, congrArg some ?_⟩
        have hread : ((source.size : Int) - (source.suffix n).length) = n := by omega
        rw [Drain.left, List.getLast?_nil, Option.map_none, Option.getD_none, hread,
          Failure.moved_moved_neg]
      | ok found =>
        obtain ⟨token?, next⟩ := found
        obtain ⟨m, rfl, hm⟩ := exists_natCast_of_scan hn hscan
        have hprogress := lt_of_scan hscan hpos
        obtain ⟨hsteps, hfailure⟩ := ih (source.size - m) (by omega) hm rfl
        rw [hscan] at hfront
        rw [pass_of_ok hpos hscan, drain_of_ok hne hfront, Drain.left_cons]
        exact ⟨congrArg (_ :: ·) hsteps, hfailure⟩
    · have hnil : source.suffix n = [] := List.eq_nil_of_length_eq_zero (by omega)
      rw [pass_of_size_le (by omega), hnil, drain_nil]
      exact ⟨rfl, rfl⟩

/-! ### Both ways of reading a text -/

/-- The scans of a text that is read find its tokens, and after them no token at most once. -/
theorem map_token?_of_tokenize {tokens : List Token} (h : tokenize config text = .ok tokens) :
    (pass config text.toArray 0).visits.map Visit.token? = tokens.map some ∨
      (pass config text.toArray 0).visits.map Visit.token? = tokens.map some ++ [none] := by
  obtain ⟨layout, hwell, rfl, rfl⟩ := exists_wellFormed_of_tokenize h
  obtain ⟨hleads, hgap⟩ := Layout.wellFormed_iff.1 hwell
  have hpass : pass config layout.text.toArray 0 = _ :=
    pass_of_leads config hleads (ahead_zero_toArray layout.text)
  obtain ⟨-, hending⟩ := map_token?_of_gap config ((ahead_length_body layout).symm ▸ hgap)
  rw [hpass, List.map_append, Layout.map_token?_visits]
  rcases hending with hnil | hnone
  · rw [hnil, List.append_nil]
    exact .inl rfl
  · rw [hnone]
    exact .inr rfl

/-- What the scans found determines the tokens, whether or not the last scan found none. -/
theorem Pass.tokens_eq_of_map_token? {pass : Pass} {tokens : List Token}
    (h : pass.visits.map Visit.token? = tokens.map some ∨
      pass.visits.map Visit.token? = tokens.map some ++ [none]) : pass.tokens = tokens := by
  have hfound : (tokens.map some).filterMap id = tokens := by
    rw [List.filterMap_map]
    exact List.filterMap_some
  rw [Pass.tokens_eq]
  rcases h with hvisits | hvisits
  · rw [hvisits, hfound]
  · rw [hvisits, List.filterMap_append, hfound]
    exact List.append_nil tokens

/-- Draining a text makes the scans of a pass over it, and fails if the pass does. -/
theorem drain_eq_pass (config : Config) (text : Text) :
    (drain config text).steps.map Prod.fst =
        (pass config text.toArray 0).visits.map Visit.token? ∧
      (pass config text.toArray 0).failure? = (drain config text).failure?.map
        (Failure.moved (text.length - ((drain config text).left text).length)) := by
  have hsuffix : Source.suffix text.toArray ((0 : Nat) : Int) = text := by
    rw [Source.suffix_eq_ahead, ahead_zero_toArray]
  obtain ⟨hsteps, hfailure⟩ := drain_suffix config (Nat.zero_le text.toArray.size)
  rw [hsuffix] at hsteps hfailure
  refine ⟨?_, hfailure⟩
  rw [hsteps, List.map_map]
  rfl

/-- A text is read as the tokens that draining it finds. -/
theorem tokenize_eq_ok_iff_drain (config : Config) (text : Text) (tokens : List Token) :
    tokenize config text = .ok tokens ↔ (drain config text).failure? = none ∧
      ((drain config text).steps.map Prod.fst = tokens.map some ∨
        (drain config text).steps.map Prod.fst = tokens.map some ++ [none]) := by
  obtain ⟨hfound, hfailure⟩ := drain_eq_pass config text
  rw [hfound]
  constructor
  · intro h
    refine ⟨?_, map_token?_of_tokenize h⟩
    rw [tokenize_eq_ok_iff, hfailure, Option.map_eq_none_iff] at h
    exact h.1
  · rintro ⟨hnone, hvisits⟩
    rw [tokenize_eq_ok_iff, hfailure, Option.map_eq_none_iff]
    exact ⟨hnone, Pass.tokens_eq_of_map_token? hvisits⟩

/-- A text fails to be read with the error that draining it ends with, the offset counted
from the beginning of the text. -/
theorem tokenize_eq_error_iff_drain (config : Config) (text : Text) (failure : Failure) :
    tokenize config text = .error failure ↔
      ∃ error, (drain config text).failure? = some (.lexical error) ∧
        failure = .lexical
          (error.moved (text.length - ((drain config text).left text).length)) := by
  have hfailure := (drain_eq_pass config text).2
  constructor
  · intro h
    obtain ⟨error, rfl⟩ := exists_lexical_of_tokenize h
    rw [tokenize_eq_error_iff, hfailure, Option.map_eq_some_iff] at h
    obtain ⟨found, hfound, hmoved⟩ := h
    cases found with
    | lexical error' => exact ⟨error', hfound, hmoved.symm⟩
    | _ => exact Failure.noConfusion hmoved
  · rintro ⟨error, hfound, rfl⟩
    rw [tokenize_eq_error_iff, hfailure, hfound]
    rfl

/-- Reading a text by position and taking tokens off its front come to the same. From every
offset the two find the same token or none and leave the same text, or fail with the same
error but for the place that its offset is counted from. So draining a text comes to an end,
with the tokens of the text and then no token at most once, or with its error. -/
theorem drain_agrees (config : Config) :
    (∀ (source : Source) (n : Nat),
      scanFront config (source.suffix n) =
        ((scan config source n).map fun found => (found.1, source.suffix found.2)).mapError
          (Failure.moved (-n)) ∧
      ∀ failure, scan config source n = .error failure → ∃ error, failure = .lexical error) ∧
    ∀ text, Drains config text (drain config text) ∧
      (∀ tokens, tokenize config text = .ok tokens ↔ (drain config text).failure? = none ∧
        ((drain config text).steps.map Prod.fst = tokens.map some ∨
          (drain config text).steps.map Prod.fst = tokens.map some ++ [none])) ∧
      ∀ failure, tokenize config text = .error failure ↔
        ∃ error, (drain config text).failure? = some (.lexical error) ∧
          failure = .lexical
            (error.moved (text.length - ((drain config text).left text).length)) := by
  constructor
  · intro source n
    exact ⟨scanFront_suffix config source n, fun failure h => exists_lexical_of_scan h⟩
  · intro text
    exact ⟨drains_drain config text, tokenize_eq_ok_iff_drain config text,
      tokenize_eq_error_iff_drain config text⟩

end LogicLexer
