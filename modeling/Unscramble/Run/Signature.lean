import Unscramble.Pattern.Catalogue
import Unscramble.Plan.Signature
import Unscramble.Run.Sequence

/-! Running a signature plan on the characters of a text. -/
namespace Unscramble

/-- A mutation that is undefined counts as an access out of bounds. -/
def defined {α : Type} : Option α → Except Failure α
  | none => .error .undefinedAccess
  | some a => .ok a

/-- What a statement calls; without a number its argument is zero. -/
structure Call where
  name : Text
  argument : Nat
  deriving DecidableEq, Repr

def Call.ofStatement (statement : Text) : Except Failure Call :=
  match Catalogue.transformCall.first statement with
  | .error _ => .error (.unknownOperation statement)
  | .ok (h, name) => match h.group? Catalogue.argumentGroup with
    | none => .ok ⟨name.text, 0⟩
    | some m => match Number.read Number.maxWord m.text with
      | .error fault => .error (.invalidOperand (.badArgument fault statement))
      | .ok n => .ok ⟨name.text, n⟩

namespace SignaturePlan
variable {α : Type}

/-- Only these three operations work on a signature. They take elements of any type. -/
def apply (op : Operation) (call : Call) (xs : List α) : Except Failure (List α) :=
  match op with
  | .reverse => .ok xs.reverse
  | .splice => defined (Sequence.dropFront? (min call.argument xs.length) xs)
  | .swap =>
    if xs.isEmpty then .error (.invalidOperand (.emptySignature op))
    else defined ((Sequence.wrap? call.argument xs.length).bind (Sequence.swapFront? · xs))
  | op => .error (.unsupported (.inSignature op call.name))

def runStatement (operations : OperationTable) (xs : List α) (statement : Text) :
    Except Failure (List α) := do
  let call ← Call.ofStatement statement
  match operations.find? call.name with
  | none => throw (.unknownOperation call.name)
  | some op => apply op call xs

def runStatements (operations : OperationTable) : List Text → List α → Except Failure (List α)
  | [], xs => .ok xs
  | s :: ss, xs => do runStatements operations ss (← runStatement operations xs s)

def run (p : SignaturePlan) (input : Text) : Except Failure Text :=
  runStatements p.operations p.statements input

end SignaturePlan
end Unscramble
