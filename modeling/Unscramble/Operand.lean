import Unscramble.Operation
import Unscramble.Text.Number
import Unscramble.Text.Quoted

/-! The elements of an operand array, and the values they become when a program runs. -/
namespace Unscramble

inductive Operand where
  | integer (v : Int)
  | text (t : Text)
  | operation (op : Operation)
  /-- The operand array itself. -/
  | itself
  deriving DecidableEq, Repr

inductive Slot where
  | operands | input
  deriving DecidableEq, Repr

/-- A sequence is named by its slot, so the operand array can hold itself. -/
inductive Value where
  | integer (v : Int)
  | text (t : Text)
  | operation (op : Operation)
  | sequence (s : Slot)
  deriving DecidableEq, Repr

/-- The text operand that stands for the input. -/
def inputName : Text := ['b']

def Operand.value : Operand → Value
  | integer v => .integer v
  | text t => if t = inputName then .sequence .input else .text t
  | operation op => .operation op
  | itself => .sequence .operands

def Value.label : Value → String
  | integer v => String.ofList (Number.renderInt v)
  | text t => String.ofList (Text.quoted t)
  | operation op => "<" ++ op.label ++ ">"
  | sequence .operands => "<operand array>"
  | sequence .input => "<input>"

end Unscramble
