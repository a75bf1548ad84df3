import Unscramble.Plan.Throttling
import Unscramble.Run.Signature

/-! Running a throttling program on the characters of a text. The steps change two sequences, the
operand array and the input; the result is the input joined. -/
namespace Unscramble
variable {α : Type}

/-- The elements of the input are of any type that has a way to `hold` a value. -/
structure Arena (α : Type) where
  operands : List Value
  input : List α
  deriving DecidableEq, Repr

namespace Arena

def operand (a : Arena α) (index : Nat) : Except Failure Value :=
  match a.operands[index]? with
  | none => .error (.invalidOperand (.outOfRange index a.operands.length))
  | some v => .ok v

end Arena

namespace ThrottlingProgram

def required (op : Operation) : Option Value → Except Failure Value
  | none => .error (.invalidOperand (.noArgument op))
  | some v => .ok v

def wrappedIndex (op : Operation) (length : Nat) (argument : Option Value) : Except Failure Nat := do
  match ← required op argument with
  | .integer e =>
    if length = 0 then throw (.invalidOperand (.emptySequence op))
    defined (Sequence.wrap? e length)
  | v => throw (.invalidOperand (.noInteger op v))

def apply (hold : Value → α) (op : Operation) (argument : Option Value) (xs : List α) :
    Except Failure (List α) :=
  match op with
  | .reverse => .ok xs.reverse
  | .push => do return xs ++ [hold (← required op argument)]
  | .unshift | .prepend => do
    defined (Sequence.rotateRight? (← wrappedIndex op xs.length argument) xs)
  | .swap | .nestedSplice => do
    defined (Sequence.swapFront? (← wrappedIndex op xs.length argument) xs)
  | .splice => do defined (Sequence.removeAt? (← wrappedIndex op xs.length argument) xs)
  | .cipherDispatch => .error (.unsupported .dispatch)

def applyAt (hold : Value → α) (op : Operation) (argument : Option Value) (a : Arena α) :
    Slot → Except Failure (Arena α)
  | .operands => do return { a with operands := ← apply id op argument a.operands }
  | .input => do return { a with input := ← apply hold op argument a.input }

def runStep (hold : Value → α) (a : Arena α) (s : Step) : Except Failure (Arena α) := do
  match ← a.operand s.operation with
  | .operation op =>
    match ← a.operand s.first with
    | .sequence slot => applyAt hold op (← s.second.mapM a.operand) a slot
    | v => throw (.invalidOperand (.noSequence op v))
  | v => throw (.notCallable s.operation v)

def runSteps (hold : Value → α) : List Step → Arena α → Except Failure (Arena α)
  | [], a => .ok a
  | s :: ss, a => do runSteps hold ss (← runStep hold a s)

def start (operands : List Operand) (input : Text) : Arena Value :=
  ⟨operands.map Operand.value, input.map fun c => .text [c]⟩

/-- Only texts and integers can be joined. -/
def join : List Value → Except Failure Text
  | [] => .ok []
  | .text t :: vs => do return t ++ (← join vs)
  | .integer v :: vs => do return Number.renderInt v ++ (← join vs)
  | v :: _ => .error (.unsupported (.unjoinable v))

def run (p : ThrottlingProgram) (input : Text) : Except Failure Text := do
  join (← runSteps id p.plan (start p.operands input)).input

end ThrottlingProgram
end Unscramble
