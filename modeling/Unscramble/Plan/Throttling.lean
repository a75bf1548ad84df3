import Unscramble.Operand

/-! What a script does to a throttling parameter: calls on the elements of one operand array. -/
namespace Unscramble

/-- The call of the operand at `operation` on those at `first` and, if given, `second`. -/
structure Step where
  operation : Nat
  first : Nat
  second : Option Nat
  deriving DecidableEq, Repr

structure ThrottlingProgram where
  plan : List Step
  operands : List Operand
  deriving DecidableEq, Repr

end Unscramble
