import Unscramble.Url.Basic
import Unscramble.Url.Fault

/-! What a cipher asks of a library of URLs. How the library keeps a URL and which names it takes for
hosts is its own affair. -/
namespace Unscramble.Url

structure Library (U : Type) where
  parse : Text → Except Fault U
  render : U → Text
  parts : U → Url
  /-- Clears the query and puts pairs into it. -/
  withPairs : U → Form.Pairs → U

namespace Library
variable {U : Type} (lib : Library U)

def pairs (u : U) : Form.Pairs := (lib.parts u).pairs

/-- Gives the first pair with a name a new value, or appends a pair; all others keep their
place and their value. -/
def setPair (u : U) (name value : Text) : U :=
  lib.withPairs u (Form.set name value (lib.pairs u))

end Library
end Unscramble.Url
