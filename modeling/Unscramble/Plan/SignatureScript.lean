import Unscramble.Operation.Shape
import Unscramble.Plan.Signature
import Unscramble.Script.Commas
import Unscramble.Script.Definition

/-! The signature plan that a script holds. -/
namespace Unscramble.SignaturePlan

def statementsOf (body : Text) : List Text :=
  ((Text.pieces ';' body).map Text.trim).filter fun s => !s.isEmpty

def entryName (t : Text) : Text := Text.trimBy (fun c => c == '"' || c == '\'') t.trim

/-- The entry `name: function` if the function is a recognised operation. -/
def entry? (t : Text) : Option (Text × Operation) := do
  let (name, source) ← Text.splitOnce? ':' t
  let op ← Operation.classify? source
  return (entryName name, op)

def oneLine (t : Text) : Text := t.map fun c => if c = '\n' || c = '\r' then ' ' else c

def operationsOf (object : Text) : Except Failure OperationTable :=
  match (Commas.pieces (oneLine object)).filterMap entry? with
  | [] => .error (.extraction .noOperations)
  | es => .ok (.ofList es)

/-- The calls are the statements of the entry function but its first and last. -/
def ofScript (script : Text) : Except Failure SignaturePlan := do
  let name ← Catalogue.signatureFunction.firstMatch script
  let definition ← Definition.find script name.text
  let statements := statementsOf (← Literal.inside definition.body.text)
  if statements.length < 3 then
    throw (.extraction (.fewStatements name.text statements.length))
  let calls := (statements.drop 1).dropLast
  match calls with
  | [] => throw .undefinedAccess
  | call :: _ =>
    let object ← Catalogue.transformObject.firstMatch call
    let opening ← (← Catalogue.finder .object object.text).firstMatch script
    let literal ← Literal.at? script opening.span.start
    return ⟨calls, ← operationsOf (← Literal.inside literal.text)⟩

end Unscramble.SignaturePlan
