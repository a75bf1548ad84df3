import Unscramble.Json.Printer
import Unscramble.Json.Reader
import Unscramble.Plan.Signature
import Unscramble.Plan.Throttling

/-! The stored form of plans, as JSON. -/
namespace Unscramble
open Json

def Operation.toJson (op : Operation) : Text := renderText op.tag

def Operation.reader : Reader Operation :=
  readChoice Operation.ofTag? fun tag =>
    (Operation.ofTag? tag).map fun op t => (readNull t).map fun (_, t) => (op, t)

namespace Operand

def integerTag : Text := "Integer".toList
def textTag : Text := "Text".toList
def operationTag : Text := "Operation".toList
def itselfTag : Text := "SelfArray".toList

def toJson : Operand → Text
  | integer v => renderObject [(integerTag, renderInt v)]
  | text t => renderObject [(textTag, renderText t)]
  | operation op => renderObject [(operationTag, op.toJson)]
  | itself => renderText itselfTag

def reader : Reader Operand :=
  readChoice (fun tag => if tag = itselfTag then some itself else none) fun tag =>
    if tag = integerTag then some fun t => (readInt t).map fun (v, t) => (integer v, t)
    else if tag = textTag then some fun t => (readText t).map fun (s, t) => (text s, t)
    else if tag = operationTag then some fun t => (Operation.reader t).map fun (op, t) => (operation op, t)
    else if tag = itselfTag then some fun t => (readNull t).map fun (_, t) => (itself, t)
    else none

end Operand

namespace Step

def operationName : Text := "operation".toList
def firstName : Text := "first".toList
def secondName : Text := "second".toList

def toJson (s : Step) : Text :=
  renderObject
    [(operationName, renderNat s.operation), (firstName, renderNat s.first),
     (secondName, s.second.elim null renderNat)]

/-- The fields met so far. -/
structure Partial where
  operation : Option Nat
  first : Option Nat
  second : Option (Option Nat)

/-- Only the second argument may be missing, and in an object only. -/
def Partial.step? (p : Partial) : Option Step := do
  return ⟨← p.operation, ← p.first, p.second.getD none⟩

def fields : List (Json.Field Partial) :=
  [⟨operationName, fun p => p.operation.isSome, fun p t => do
      let (n, t) ← readNat Number.maxWord t
      return ({ p with operation := some n }, t)⟩,
   ⟨firstName, fun p => p.first.isSome, fun p t => do
      let (n, t) ← readNat Number.maxWord t
      return ({ p with first := some n }, t)⟩,
   ⟨secondName, fun p => p.second.isSome, fun p t => do
      let (n, t) ← readOptional (readNat Number.maxWord) t
      return ({ p with second := some n }, t)⟩]

def reader : Reader Step := readRecord false fields ⟨none, none, none⟩ Partial.step?

end Step

namespace ThrottlingProgram

def planName : Text := "plan".toList
def operandsName : Text := "operands".toList

def toJson (p : ThrottlingProgram) : Text :=
  renderObject
    [(planName, renderArray (p.plan.map Step.toJson)),
     (operandsName, renderArray (p.operands.map Operand.toJson))]

structure Partial where
  plan : Option (List Step)
  operands : Option (List Operand)

def Partial.program? (p : Partial) : Option ThrottlingProgram := do
  return ⟨← p.plan, ← p.operands⟩

def fields : List (Json.Field Partial) :=
  [⟨planName, fun p => p.plan.isSome, fun p t => do
      let (steps, t) ← readList Step.reader t
      return ({ p with plan := some steps }, t)⟩,
   ⟨operandsName, fun p => p.operands.isSome, fun p t => do
      let (operands, t) ← readList Operand.reader t
      return ({ p with operands := some operands }, t)⟩]

def reader : Reader ThrottlingProgram := readRecord false fields ⟨none, none⟩ Partial.program?

def ofJson (t : Text) : Except Problem ThrottlingProgram := readWholeText reader t

end ThrottlingProgram

def OperationTable.toJson (t : OperationTable) : Text :=
  renderObject (t.entries.map fun e => (e.1, e.2.toJson))

/-- Of two entries with one name the later one holds. -/
def OperationTable.reader : Reader OperationTable := fun t =>
  (readMap Operation.reader t).map fun (es, t) => (OperationTable.ofList es, t)

namespace SignaturePlan

def transformsName : Text := "transforms".toList
def statementsName : Text := "statements".toList
def mapName : Text := "map".toList

def toJson (p : SignaturePlan) : Text :=
  renderObject
    [(transformsName,
        renderObject [(statementsName, renderArray (p.statements.map renderText))]),
     (mapName, p.operations.toJson)]

def statementsReader : Reader (List Text) :=
  readRecord false
    [⟨statementsName, Option.isSome, fun _ t => do
        let (statements, t) ← readList readText t
        return (some statements, t)⟩]
    none id

structure Partial where
  statements : Option (List Text)
  operations : Option OperationTable

def Partial.plan? (p : Partial) : Option SignaturePlan := do
  return ⟨← p.statements, ← p.operations⟩

def fields : List (Json.Field Partial) :=
  [⟨transformsName, fun p => p.statements.isSome, fun p t => do
      let (statements, t) ← statementsReader t
      return ({ p with statements := some statements }, t)⟩,
   ⟨mapName, fun p => p.operations.isSome, fun p t => do
      let (operations, t) ← OperationTable.reader t
      return ({ p with operations := some operations }, t)⟩]

def reader : Reader SignaturePlan := readRecord false fields ⟨none, none⟩ Partial.plan?

def ofJson (t : Text) : Except Problem SignaturePlan := readWholeText reader t

end SignaturePlan
end Unscramble
