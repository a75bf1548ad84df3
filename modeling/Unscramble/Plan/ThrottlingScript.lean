import Unscramble.Operation.Shape
import Unscramble.Plan.Throttling
import Unscramble.Script.Definition
import Unscramble.Script.Elements

/-! The throttling program that a script holds. -/
namespace Unscramble.ThrottlingProgram

/-- The name at an index of the array through which the entry function is called. -/
def nameFromArray (script : Text) : Except Failure Text := do
  let array ← Catalogue.throttlingArray.firstMatch script
  match script.dropBytes? array.span.stop with
  | none => throw .undefinedAccess
  | some after =>
    let index? := do
      let m ← (← Catalogue.indexSuffix.search? after).group? Catalogue.indexGroup
      (Number.read Number.maxWord m.text).toOption
    match index? with
    | none => throw (.extraction (.noIndex array.text))
    | some index =>
      let opening ← (← Catalogue.finder .array array.text).firstMatch script
      let literal ← Literal.at? script opening.span.start
      match (← Elements.ofLiteral literal.text)[index]? with
      | none => throw (.extraction (.noElement array.text index))
      | some name => return name

/-- The name of the entry function: the one called directly if the script defines it, else the
one called through an array. -/
def functionName (script : Text) : Except Failure Text :=
  match Catalogue.throttlingFunction.firstMatch script with
  | .ok name => do
    if ← Definition.isPresent script name.text then return name.text else nameFromArray script
  | .error (.noMatch _) => nameFromArray script
  | .error f => .error f

def quotedContent? (quote : Char) : Text → Option Text
  | [] => none
  | c :: t => if c = quote && t.getLast? == some quote then some t.dropLast else none

/-- The operand that an element of the array writes. A function that is no recognised operation,
like anything else unknown, is kept as text. -/
def operandOf (element : Text) : Operand :=
  let t := element.trim
  match Number.readSigned? t with
  | some v => .integer v
  | none =>
    if t = "null".toList then .itself
    else match (quotedContent? '"' t).or (quotedContent? '\'' t) with
      | some s => .text s
      | none => match if Elements.keyword.isPrefixOf t then Operation.classify? t else none with
        | some op => .operation op
        | none => .text t

def indexOf (count : Nat) (m : Match) : Except Failure Nat :=
  match Number.read Number.maxWord m.text with
  | .error fault => .error (.extraction (.badIndex fault))
  | .ok index =>
    if index < count then .ok index else .error (.extraction (.noOperand index count))

def stepOf (count : Nat) (h : Regex.Hit) : Except Failure Step := do
  match h.group? Catalogue.operationGroup, h.group? Catalogue.firstGroup with
  | some op, some first =>
    let op ← indexOf count op
    let first ← indexOf count first
    match h.group? Catalogue.secondGroup with
    | none => return ⟨op, first, none⟩
    | some second => return ⟨op, first, some (← indexOf count second)⟩
  | _, _ => throw .undefinedAccess

def stepsOf (block : Text) (count : Nat) : Except Failure (List Step) := do
  match ← (Catalogue.throttlingStep.searchAll block).mapM (stepOf count) with
  | [] => throw (.extraction .noSteps)
  | steps => return steps

def arrayMarker : Text := ",c=[".toList

def withoutLineBreaks (t : Text) : Text := t.filter fun c => c != '\n' && c != '\r'

def ofScript (script : Text) : Except Failure ThrottlingProgram := do
  let name ← functionName script
  let definition ← Definition.find script name
  let source := withoutLineBreaks definition.whole.text
  match Text.offsetOf? arrayMarker source with
  | none => throw (.extraction (.noOperandArray name))
  | some marker =>
    let array ← Literal.at? source (marker + 3)
    let operands := (← Elements.ofLiteral array.text).map operandOf
    match source.dropBytes? array.span.stop with
    | none => throw .undefinedAccess
    | some after =>
      let opening ← Catalogue.tryBlock.firstMatch after
      let block ← Literal.at? after opening.span.start
      return ⟨← stepsOf block.text operands.length, operands⟩

end Unscramble.ThrottlingProgram
