/-!
# Release

What the package says about itself.

## Main definitions

* `Release.version`, `Release.terms` — the version and the terms of use
-/

namespace LogicLexer.Release

/-- The version of the package. -/
def version : String := "0.1.0"

/-- The terms that the package may be used under. -/
def terms : String := "MIT"

end LogicLexer.Release
