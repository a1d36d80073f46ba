import LogicLexer.Proofs.Scanner.Fault

/-!
# What a scan finds

A scan is settled by the text ahead of it. The configuration only names the lexeme that
stands there, and the offset only says from where positions are counted.

## Main definitions

* `Finding` — what stands at the front of a text
* `Finding.outcome` — what a scan comes to when this is ahead of it

## Main results

* `exists_finding` — one finding settles all scans with the same text ahead
* `exists_natCast_of_scan` — a scan that begins in the source ends in it
-/

namespace LogicLexer

open Lexeme

/-- What stands at the front of a text: blanks up to its end, or, after some blanks, a lexeme
or a fault, and what follows the blanks or the lexeme. -/
inductive Finding
  | blank (gap : Text)
  | lexeme (gap text rest : Text)
  | fault (gap rest : Text)

namespace Finding

/-- The text at whose front it stands. -/
def text : Finding → Text
  | blank gap => gap
  | lexeme gap text rest => gap ++ text ++ rest
  | fault gap rest => gap ++ rest

/-- What a scan from an offset comes to when this is ahead of it. -/
def outcome (config : Config) (offset : Nat) : Finding → Except Failure (Option Token × Int)
  | blank gap => .ok (none, ((offset + gap.length : Nat) : Int))
  | lexeme gap text _ =>
    .ok (some (Lexeme.token config text), ((offset + gap.length + text.length : Nat) : Int))
  | fault gap rest => .error (.lexical (.ofFault ((offset + gap.length : Nat) : Int) rest rest))

end Finding

/-- One finding settles all scans with the same text ahead, under any configuration and from
any offset. -/
theorem exists_finding (text : Text) : ∃ finding : Finding, finding.text = text ∧
    ∀ (config : Config) (source : Source) (n : Nat), source.ahead n = text →
      scan config source n = finding.outcome config n := by
  cases front text with
  | blank hgap =>
    refine ⟨.blank text, rfl, ?_⟩
    intro config source n hahead
    rw [scan_of_gap (by omega) (hahead.symm ▸ hgap), hahead, ← Int.natCast_add]
    rfl
  | @lexeme gap lexeme rest hgap hlexeme hfollow =>
    exact ⟨.lexeme gap lexeme rest, rfl, fun _ _ _ hahead =>
      scan_of_lexeme hgap hlexeme hahead hfollow⟩
  | @fault gap rest hgap hfault =>
    exact ⟨.fault gap rest, rfl, fun _ _ _ hahead => scan_of_beginsFaulty hgap hfault hahead⟩

/-- A scan that begins in the source ends in it. -/
theorem exists_natCast_of_scan {config : Config} {source : Source} {n : Nat} {next : Int}
    {token? : Option Token} (hn : n ≤ source.size)
    (h : scan config source n = .ok (token?, next)) : ∃ m : Nat, next = m ∧ m ≤ source.size := by
  obtain ⟨finding, htext, hscan⟩ := exists_finding (source.ahead n)
  rw [hscan config source n rfl] at h
  have hlength : finding.text.length = source.size - n := by
    rw [htext, Source.ahead_natCast, List.length_drop]
    exact congrArg (· - n) Array.length_toList
  cases finding with
  | blank gap =>
    obtain ⟨-, rfl⟩ := Prod.mk.inj (Except.ok.inj h)
    refine ⟨_, rfl, ?_⟩
    simp only [Finding.text] at hlength
    omega
  | lexeme gap text rest =>
    obtain ⟨-, rfl⟩ := Prod.mk.inj (Except.ok.inj h)
    refine ⟨_, rfl, ?_⟩
    simp only [Finding.text, List.length_append] at hlength
    omega
  | fault gap rest => exact absurd h (by simp [Finding.outcome])

end LogicLexer
