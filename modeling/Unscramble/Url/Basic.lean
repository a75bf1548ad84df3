import Unscramble.Url.Form
import Unscramble.Url.Path

/-! The parts of an absolute URL. -/
namespace Unscramble

/-- The authority names user and host; it is missing in URLs without `//`. -/
structure Url where
  scheme : Text
  authority : Option Text
  path : Text
  query : Option Text
  fragment : Option Text
  deriving DecidableEq, Repr

namespace Url

def behind (c : Char) : Option Text → Text
  | none => []
  | some t => c :: t

/-- Without an authority, a path that starts with `//` is kept apart from one by `/.`. -/
def render (u : Url) : Text :=
  let front := match u.authority with
    | some a => '/' :: '/' :: a
    | none => if ['/', '/'].isPrefixOf u.path then ['/', '.'] else []
  u.scheme ++ ':' :: front ++ u.path ++ behind '?' u.query ++ behind '#' u.fragment

def pairs (u : Url) : Form.Pairs := Form.parse (u.query.getD [])

def withPairs (u : Url) (ps : Form.Pairs) : Url := { u with query := some (Form.render ps) }

end Url
end Unscramble
