/-!
# Failures of reading JSON

The three ways in which a text is no JSON value of the wanted kind.
-/

namespace Apicalypse.Json

/-- Why reading a JSON text fails. -/
inductive Failure where
  /-- The text ends inside a value or before it. -/
  | ended
  /-- The text breaks the rules of JSON. -/
  | malformed
  /-- The text is a JSON value of another shape than wanted. -/
  | mismatch
  deriving DecidableEq, Repr

end Apicalypse.Json
