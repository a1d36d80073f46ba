import LogicLexer.Scanner.Run

/-!
# Cursors

A cursor reads a source token by token. It can be moved to any position, before the
beginning or after the end included, and may change its configuration between two
tokens.

## Main definitions

* `Cursor` — a source, a position in it and the configuration in force
* `Cursor.next` — the token ahead, and the cursor behind it
-/

namespace LogicLexer

/-- A position in a source and the configuration in force. -/
structure Cursor where
  source : Source
  position : Int := 0
  config : Config := {}

namespace Cursor

/-- The token ahead, if there is one, and the cursor moved behind it. -/
def next (cursor : Cursor) : Except Failure (Option Token × Cursor) :=
  (scan cursor.config cursor.source cursor.position).map fun found =>
    (found.1, { cursor with position := found.2 })

/-- The cursor at another position. -/
def seek (cursor : Cursor) (position : Int) : Cursor :=
  { cursor with position := position }

/-- The cursor under another configuration. -/
def reconfigure (cursor : Cursor) (config : Config) : Cursor :=
  { cursor with config := config }

end Cursor

end LogicLexer
