/-!
What is wrong with a JSON text, told by kind.
-/

namespace GuideLayer

/-- Why a text does not read as a value of the wanted kind. -/
inductive Fault where
  /-- It is not JSON. -/
  | malformed
  /-- It is JSON, but of another kind or out of range. -/
  | mismatch
  /-- It ends too early. -/
  | truncated
  deriving DecidableEq, Repr

namespace Fault

def category : Fault → String
  | malformed => "syntax"
  | mismatch => "data"
  | truncated => "eof"

end Fault

end GuideLayer
