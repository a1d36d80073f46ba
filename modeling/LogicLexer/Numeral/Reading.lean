import LogicLexer.Numeral.Conversion

/-!
# Reading digit runs

A digit run of any length is read in blocks of a thousand characters, and the blocks are
put together by their place. A block is converted like any text and may be a signed
numeral with padding. A run of digits alone is worth its positional value; in any other
run every character of a block counts for a place.

## Main definitions

* `Numeral.blockLength` — how many characters a block has
* `Numeral.read` — the value of a run, or why one of its blocks is not converted

## Main results

* `Numeral.blockLength_le_digitLimit` — no block has more digits than can be converted
-/

namespace LogicLexer.Numeral

/-- How many characters of a digit run are read at a time. -/
def blockLength : Nat := 1000

/-- A block is short enough to be converted in either direction. -/
theorem blockLength_le_digitLimit : blockLength ≤ digitLimit := by
  decide

/-- The value of a run when the blocks before it are worth `value`, or why the first of its
blocks that is not converted is not. -/
def readFrom (value : Int) : Text → Except Unconvertible Int
  | [] => .ok value
  | c :: rest =>
    let block := (c :: rest).take blockLength
    match ofText block with
    | .error reason => .error reason
    -- signs, padding and underscores of a block count for a place like its digits
    | .ok n => readFrom (value * placeValue block.length + n) ((c :: rest).drop blockLength)
termination_by text => text.length
decreasing_by
  simp only [List.length_drop, List.length_cons, blockLength]
  omega

/-- The value of a digit run, zero when it is empty, or why one of its blocks is not
converted. -/
def read (text : Text) : Except Unconvertible Int :=
  readFrom 0 text

end LogicLexer.Numeral
