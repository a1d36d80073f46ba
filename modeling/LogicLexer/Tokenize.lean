import LogicLexer.Scanner.Run

/-!
# Reading a whole source

A source is read by scanning again and again, each time from where the scan before
ended, until the end of the source or the first failure. Reading is all or nothing: a
failure leaves no tokens.

## Main definitions

* `Visit`, `Pass` — one scan, and the scans of a source in order
* `pass` — the scans from a position on
* `tokenize` — the tokens of a text

## Main results

* `pass_of_size_le`, `pass_of_error`, `pass_of_ok` — a pass from the scan that it begins
  with
* `tokenize_eq_ok_iff`, `tokenize_eq_error_iff` — when a text has tokens, and which, and
  when it has none
-/

namespace LogicLexer

/-- One scan: where it began, the token that it found, if any, and where it ended. -/
structure Visit where
  position : Int
  token? : Option Token
  next : Int
  deriving DecidableEq, Repr

/-- The scans of a source in order, and the failure that ended them, if any. -/
structure Pass where
  visits : List Visit
  failure? : Option Failure
  deriving DecidableEq, Repr

namespace Pass

/-- The tokens that were found, in order. -/
def tokens (pass : Pass) : List Token :=
  pass.visits.filterMap Visit.token?

/-- The tokens are what the scans found, without those that found none. -/
theorem tokens_eq (pass : Pass) : pass.tokens = (pass.visits.map Visit.token?).filterMap id := by
  rw [List.filterMap_map]
  rfl

/-- The pass with a scan before it. -/
def after (visit : Visit) (pass : Pass) : Pass :=
  { pass with visits := visit :: pass.visits }

end Pass

/-- The scans from a position on, after those already done. -/
def passFrom (config : Config) (source : Source) (position : Int) (done : Array Visit) : Pass :=
  if h : position < source.size then
    match hscan : scan config source position with
    | .error failure => ⟨done.toList, some failure⟩
    | .ok (token?, next) =>
      have := lt_of_scan hscan h
      passFrom config source next (done.push ⟨position, token?, next⟩)
  else ⟨done.toList, none⟩
termination_by (source.size - position).toNat
decreasing_by omega

/-- The scans from a position on. -/
def pass (config : Config) (source : Source) (position : Int) : Pass :=
  passFrom config source position #[]

/-- The tokens of a text, or the first failure. -/
def tokenize (config : Config) (text : Text) : Except Failure (List Token) :=
  let pass := pass config text.toArray 0
  match pass.failure? with
  | some failure => .error failure
  | none => .ok pass.tokens

theorem passFrom_of_ok {config : Config} {source : Source} {position next : Int}
    {token? : Option Token} (hlt : position < source.size)
    (h : scan config source position = .ok (token?, next)) (done : Array Visit) :
    passFrom config source position done =
      passFrom config source next (done.push ⟨position, token?, next⟩) := by
  rw [passFrom, dif_pos hlt]
  split <;> simp_all

/-- The scans already done come first and change nothing else. -/
theorem passFrom_eq (config : Config) (source : Source) (position : Int) (done : Array Visit) :
    passFrom config source position done =
      ⟨done.toList ++ (pass config source position).visits,
        (pass config source position).failure?⟩ := by
  unfold pass
  induction hn : (source.size - position).toNat using Nat.strongRecOn
    generalizing position done with
  | ind n ih =>
    by_cases hlt : position < source.size
    · cases hscan : scan config source position with
      | error failure =>
        have hstop (seen : Array Visit) :
            passFrom config source position seen = ⟨seen.toList, some failure⟩ := by
          rw [passFrom, dif_pos hlt]
          split <;> simp_all
        simp [hstop]
      | ok found =>
        have hless : (source.size - found.2).toNat < n := by
          have := lt_of_scan hscan hlt
          omega
        rw [passFrom_of_ok hlt hscan, passFrom_of_ok hlt hscan,
          ih _ hless found.2 (done.push _) rfl, ih _ hless found.2 (#[].push _) rfl]
        simp
    · have hstop (seen : Array Visit) :
          passFrom config source position seen = ⟨seen.toList, none⟩ := by
        rw [passFrom, dif_neg hlt]
      simp [hstop]

/-- At the end of the source no scan is left. -/
theorem pass_of_size_le {config : Config} {source : Source} {position : Int}
    (h : source.size ≤ position) : pass config source position = ⟨[], none⟩ := by
  rw [pass, passFrom, dif_neg (by omega)]

/-- A failing scan ends the pass. -/
theorem pass_of_error {config : Config} {source : Source} {position : Int} {failure : Failure}
    (hlt : position < source.size) (h : scan config source position = .error failure) :
    pass config source position = ⟨[], some failure⟩ := by
  rw [pass, passFrom, dif_pos hlt]
  split <;> simp_all

/-- After a scan the pass goes on from where it ended. -/
theorem pass_of_ok {config : Config} {source : Source} {position next : Int}
    {token? : Option Token} (hlt : position < source.size)
    (h : scan config source position = .ok (token?, next)) :
    pass config source position =
      (pass config source next).after ⟨position, token?, next⟩ := by
  rw [pass, passFrom_of_ok hlt h, passFrom_eq]
  simp [Pass.after]

/-- A text has tokens exactly when no scan fails, and they are those that the scans find. -/
theorem tokenize_eq_ok_iff {config : Config} {text : Text} {tokens : List Token} :
    tokenize config text = .ok tokens ↔
      (pass config text.toArray 0).failure? = none ∧
        (pass config text.toArray 0).tokens = tokens := by
  cases h : (pass config text.toArray 0).failure? <;> simp [tokenize, h]

/-- A text fails to be read exactly when a scan fails. -/
theorem tokenize_eq_error_iff {config : Config} {text : Text} {failure : Failure} :
    tokenize config text = .error failure ↔
      (pass config text.toArray 0).failure? = some failure := by
  cases h : (pass config text.toArray 0).failure? <;> simp [tokenize, h]

end LogicLexer
