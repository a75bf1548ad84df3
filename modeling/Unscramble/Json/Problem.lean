/-! Why a JSON document is refused. -/
namespace Unscramble.Json

/-- The text ends too early; it is not JSON; it is, with the wrong content; or a length of time in
it is beyond the largest one. Of several problems the first from the left is reported. -/
inductive Problem where
  | endOfText | notJson | wrongContent | overflow
  deriving DecidableEq, Repr

end Unscramble.Json
