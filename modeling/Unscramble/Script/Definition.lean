import Unscramble.Pattern.Finder
import Unscramble.Script.Literal

/-! Function definitions inside a script. -/
namespace Unscramble

/-- A function definition, with the body from its opening to its closing brace. -/
structure Definition where
  whole : Match
  body : Match
  deriving DecidableEq, Repr

namespace Definition

def lastOffset (s : Span) : Except Failure Nat :=
  match s.stop with
  | 0 => .error .undefinedAccess
  | n + 1 => .ok n

def find (script name : Text) : Except Failure Definition := do
  let head ← (← Catalogue.finder .function name).firstMatch script
  let body ← Literal.span script (← lastOffset head.span)
  return ⟨← Literal.covered script ⟨head.span.start, body.stop⟩, ← Literal.covered script body⟩

/-- Whether the script defines the function `name`, whatever its body. -/
def isPresent (script name : Text) : Except Failure Bool := do
  return ((← Catalogue.finder .function name).firstMatch script).isOk

end Definition
end Unscramble
