import Unscramble.Operation.Table

/-! What a script does to a signature: calls in the order they are made, and the operation that
each called name stands for. -/
namespace Unscramble

structure SignaturePlan where
  statements : List Text
  operations : OperationTable
  deriving DecidableEq, Repr

end Unscramble
