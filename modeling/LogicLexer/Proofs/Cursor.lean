import LogicLexer.Cursor
import LogicLexer.Tokenize
import LogicLexer.Proofs.Vocabulary
import LogicLexer.Proofs.Scanner.Finding

/-!
# A configuration for every token

The configuration of a cursor may change before every token. Where the tokens lie, and
where and how the reading fails, is not affected: the configuration is asked only for the
meaning of a lexeme that has been cut out already. So each run is the same row of extents,
with the i-th lexeme named by the i-th configuration.

## Main definitions

* `Extent` — a scan without the meaning of its token
* `Cursor.walk` — the scans of a cursor that is given a configuration before each of them

## Main results

* `scan_of_any_config` — what one scan finds, whatever its configuration
* `Lexeme.token_reconfigured` — what one lexeme is named under two configurations
* `Cursor.exists_extents` — the extents of a walk, whatever its configurations
* `Cursor.walk_reconfigured` — what two walks have in common, and where they may differ
-/

namespace LogicLexer

open Lexeme

/-! ### One scan -/

/-- A scan finds the same lexeme or none, ends at the same offset, or fails in the same way,
whatever its configuration is. -/
theorem scan_of_any_config (source : Source) (n : Nat) :
    (∃ lexeme? : Option Text, ∃ next : Nat, ∀ config,
      scan config source n = .ok (lexeme?.map (Lexeme.token config), (next : Int))) ∨
    ∃ failure, ∀ config, scan config source n = .error failure := by
  obtain ⟨finding, -, hscan⟩ := exists_finding (source.ahead n)
  cases finding with
  | blank gap => exact .inl ⟨none, _, fun config => hscan config source n rfl⟩
  | lexeme gap text rest => exact .inl ⟨some text, _, fun config => hscan config source n rfl⟩
  | fault gap rest => exact .inr ⟨_, fun config => hscan config source n rfl⟩

/-- A numeral is the same number under two configurations, and any other lexeme is resolved
under each of them. Only an alias can come out differently. -/
theorem Lexeme.token_reconfigured (left right : Config) (text : Text) :
    ((token left text).kind = .number → token right text = token left text) ∧
      ((token left text).kind ≠ .number → token left text = left.resolve text ∧
        token right text = right.resolve text) ∧
      (token right text ≠ token left text →
        ∃ style : AliasStyle, text ∈ style.aliases.map Prod.fst) := by
  rw [ne_eq, kind_token_eq_number_iff]
  refine ⟨?_, ?_, exists_alias_of_token_ne⟩
  · intro hnumeral
    rw [token_of_isNumeral _ hnumeral, token_of_isNumeral _ hnumeral]
  · intro hnumeral
    exact ⟨token_of_not_isNumeral _ hnumeral, token_of_not_isNumeral _ hnumeral⟩

/-! ### Walks -/

/-- A scan without the meaning of its token: where it began, the lexeme that it found, if any,
and where it ended. -/
structure Extent where
  position : Int
  lexeme? : Option Text
  next : Int
  deriving DecidableEq, Repr

/-- The extent of a scan. -/
def Visit.extent (visit : Visit) : Extent :=
  ⟨visit.position, visit.token?.map Token.lexeme, visit.next⟩

/-- The scan of an extent under a configuration. -/
def Extent.visit (config : Config) (extent : Extent) : Visit :=
  ⟨extent.position, extent.lexeme?.map (Lexeme.token config), extent.next⟩

theorem Extent.extent_visit (config : Config) (extent : Extent) :
    (extent.visit config).extent = extent := by
  obtain ⟨position, lexeme?, next⟩ := extent
  cases lexeme? with
  | none => rfl
  | some text =>
    exact congrArg (fun lexeme => Extent.mk position (some lexeme) next) (token_lexeme config text)

/-- Extents are what is left of their scans under any configurations. -/
theorem map_extent_mapIdx (configs : Nat → Config) (extents : List Extent) :
    (extents.mapIdx fun i extent => extent.visit (configs i)).map Visit.extent = extents := by
  apply List.ext_getElem?
  intro i
  have hextent : Visit.extent ∘ Extent.visit (configs i) = id :=
    funext (Extent.extent_visit (configs i))
  rw [List.getElem?_map, List.getElem?_mapIdx, Option.map_map, hextent, Option.map_id_apply]

/-- The token that the scan at an index found. -/
def Pass.tokenAt? (pass : Pass) (i : Nat) : Option Token :=
  pass.visits[i]?.bind Visit.token?

/-- The token at an index is the lexeme of its extent, named by the configuration there. -/
theorem tokenAt?_mapIdx (configs : Nat → Config) (extents : List Extent)
    (failure? : Option Failure) (i : Nat) :
    Pass.tokenAt? ⟨extents.mapIdx fun i extent => extent.visit (configs i), failure?⟩ i =
      (extents[i]?.bind Extent.lexeme?).map (Lexeme.token (configs i)) := by
  rw [Pass.tokenAt?, List.getElem?_mapIdx]
  cases extents[i]? <;> rfl

namespace Cursor

/-- So many scans of a cursor that is given the i-th configuration before the i-th of them, or
fewer if one of them fails. -/
def walk : (Nat → Config) → Nat → Cursor → Pass
  | _, 0, _ => ⟨[], none⟩
  | configs, steps + 1, cursor =>
    match (cursor.reconfigure (configs 0)).next with
    | .error failure => ⟨[], some failure⟩
    | .ok (token?, moved) =>
      (walk (fun i => configs (i + 1)) steps moved).after
        ⟨cursor.position, token?, moved.position⟩

/-- The extents of a walk, and the failure that ends it, if any, are the same whatever its
configurations are, and the i-th lexeme is named by the i-th configuration. -/
theorem exists_extents (source : Source) (steps n : Nat) :
    ∃ (extents : List Extent) (failure? : Option Failure), ∀ (configs : Nat → Config) config,
      walk configs steps ⟨source, n, config⟩ =
        ⟨extents.mapIdx fun i extent => extent.visit (configs i), failure?⟩ := by
  induction steps generalizing n with
  | zero => exact ⟨[], none, fun _ _ => rfl⟩
  | succ steps ih =>
    rcases scan_of_any_config source n with ⟨lexeme?, next, hscan⟩ | ⟨failure, hscan⟩
    · obtain ⟨extents, failure?, hrest⟩ := ih next
      refine ⟨⟨n, lexeme?, next⟩ :: extents, failure?, fun configs config => ?_⟩
      rw [walk, Cursor.next, reconfigure, hscan, List.mapIdx_cons]
      exact congrArg (Pass.after _) (hrest (fun i => configs (i + 1)) (configs 0))
    · refine ⟨[], some failure, fun configs config => ?_⟩
      rw [walk, Cursor.next, reconfigure, hscan]
      rfl

/-- Two walks from one offset visit the same extents and end with the same failure, whatever
configurations they are given. Numbers are the same in both, any other token is what its
lexeme stands for under the configuration at its place, and only an alias in one of the two
directions can be read as different tokens. -/
theorem walk_reconfigured (source : Source) (offset : Nat) (config : Config)
    (left right : Nat → Config) (steps : Nat) :
    let first := walk left steps ⟨source, offset, config⟩
    let second := walk right steps ⟨source, offset, config⟩
    first.failure? = second.failure? ∧
      first.visits.map Visit.extent = second.visits.map Visit.extent ∧
      ∀ i, ∀ token ∈ first.tokenAt? i, ∃ other ∈ second.tokenAt? i,
        (token.kind = .number → other = token) ∧
        (token.kind ≠ .number → token = (left i).resolve token.lexeme ∧
          other = (right i).resolve token.lexeme) ∧
        (other ≠ token → ∃ style : AliasStyle, token.lexeme ∈ style.aliases.map Prod.fst) := by
  obtain ⟨extents, failure?, hwalk⟩ := exists_extents source steps offset
  intro first second
  have hfirst : first = _ := hwalk left config
  have hsecond : second = _ := hwalk right config
  rw [hfirst, hsecond]
  refine ⟨rfl, ?_, ?_⟩
  · rw [map_extent_mapIdx, map_extent_mapIdx]
  · intro i token htoken
    rw [tokenAt?_mapIdx] at htoken
    -- the token names a lexeme, and the other walk comes to this lexeme as well
    obtain ⟨text, htext, rfl⟩ := Option.map_eq_some_iff.1 htoken
    have hother := tokenAt?_mapIdx right extents failure? i
    rw [htext] at hother
    rw [token_lexeme]
    exact ⟨Lexeme.token (right i) text, hother, token_reconfigured (left i) (right i) text⟩

end Cursor

end LogicLexer
