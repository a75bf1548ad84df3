import Unscramble.Duration.Reader
import Unscramble.Json.Problem
import Unscramble.Operand
import Unscramble.Url.Fault

/-! What can go wrong, by cause, and the message for each cause. -/
namespace Unscramble

inductive Target where
  | signatureFunction | transformObject | throttlingFunction | throttlingArray | tryBlock
  | transformCall | functionDefinition | objectLiteral | arrayLiteral | playerId
  | named (name : Text)
  deriving DecidableEq, Repr

def Target.label : Target → String
  | signatureFunction => "signature function name"
  | transformObject => "transform object name"
  | throttlingFunction => "throttling function name"
  | throttlingArray => "throttling function array"
  | tryBlock => "throttling try block"
  | transformCall => "transform call"
  | functionDefinition => "function definition"
  | objectLiteral => "transform object literal"
  | arrayLiteral => "throttling array literal"
  | playerId => "player id"
  | named name => String.ofList name

inductive Malformed where
  | noLiteral (offset : Nat) (found : Option Char)
  | noArray (start : Text)
  | noParameterList (start : Text)
  | noUrl
  | noSignature
  deriving DecidableEq, Repr

def Malformed.message : Malformed → String
  | noLiteral offset found =>
    s!"expected '\x7b' or '[' at offset {offset}, found " ++ match found with
      | none => "end of input"
      | some c => String.ofList (Text.quotedChar c)
  | noArray start => "array literal must start with '[': " ++ String.ofList start
  | noParameterList start => "function literal without parameter list: " ++ String.ofList start
  | noUrl => "signatureCipher without url"
  | noSignature => "signatureCipher without s"

/-- Why a script yields no plan although its parts were found. -/
inductive Shortfall where
  | fewStatements (function : Text) (count : Nat)
  | noOperations
  | noOperandArray (function : Text)
  | noIndex (array : Text)
  | noElement (array : Text) (index : Nat)
  | badIndex (fault : NumberFault)
  | noOperand (index count : Nat)
  | noSteps
  deriving DecidableEq, Repr

def Shortfall.message : Shortfall → String
  | fewStatements f count =>
    "signature function " ++ String.ofList f ++ s!" has {count} statements, expected at least 3"
  | noOperations => "transform object has no recognised operations"
  | noOperandArray f => "throttling function " ++ String.ofList f ++ " has no operand array"
  | noIndex a => "no index after throttling array " ++ String.ofList a
  | noElement a index => "throttling array " ++ String.ofList a ++ s!" has no element {index}"
  | badIndex fault => "bad operand index: " ++ fault.message
  | noOperand index count => s!"throttling step references operand {index} of {count}"
  | noSteps => "throttling try block has no call steps"

inductive OperandFault where
  | badArgument (fault : NumberFault) (statement : Text)
  | emptySignature (op : Operation)
  | outOfRange (index count : Nat)
  | noSequence (op : Operation) (value : Value)
  | noArgument (op : Operation)
  | noInteger (op : Operation) (value : Value)
  | emptySequence (op : Operation)
  deriving DecidableEq, Repr

def OperandFault.message : OperandFault → String
  | badArgument fault statement => fault.message ++ " in " ++ String.ofList statement
  | emptySignature op => op.label ++ " on empty signature"
  | outOfRange index count => s!"operand index {index} out of range ({count} operands)"
  | noSequence op value => op.label ++ " target " ++ value.label ++ " is not a sequence"
  | noArgument op => op.label ++ " needs a second argument"
  | noInteger op value => op.label ++ " expects an integer, got " ++ value.label
  | emptySequence op => op.label ++ " on empty sequence"

inductive Unsupported where
  | inSignature (op : Operation) (name : Text)
  | dispatch
  | unjoinable (value : Value)
  deriving DecidableEq, Repr

def Unsupported.message : Unsupported → String
  | inSignature op name => op.label ++ " in signature transform " ++ String.ofList name
  | dispatch => "switch-based cipher dispatch in throttling plan"
  | unjoinable value => "cannot join " ++ value.label ++ " into throttling result"

inductive SettingFault where
  | number (fault : NumberFault)
  | duration (fault : DurationFault)
  deriving DecidableEq, Repr

def SettingFault.message : SettingFault → String
  | number fault => fault.message
  | duration fault => fault.message

inductive Failure where
  | malformed (m : Malformed)
  | unterminated (offset : Nat)
  | noMatch (target : Target)
  | extraction (s : Shortfall)
  | unknownOperation (text : Text)
  | notCallable (index : Nat) (value : Value)
  | unsupported (u : Unsupported)
  | invalidOperand (fault : OperandFault)
  | scriptTooLarge (size limit : Nat)
  /-- The pattern does not name the group that holds what is looked for. -/
  | invalidPattern (target : Target) (group source : Text)
  | invalidSetting (key value : Text) (fault : SettingFault)
  | badPattern
  | json (problem : Json.Problem)
  | url (fault : Url.Fault)
  /-- Cached entries would live for more than a thousand years. -/
  | lifetimeTooLong
  | undefinedAccess
  deriving DecidableEq, Repr

namespace Failure

def message : Failure → String
  | malformed m => "Malformed input: " ++ m.message
  | unterminated offset => s!"Unterminated literal starting at offset {offset}"
  | noMatch target => "No pattern matched for " ++ target.label
  | extraction s => "Extraction failed: " ++ s.message
  | unknownOperation text => "Unknown operation: " ++ String.ofList text
  | notCallable index value => s!"Operand {index} is not callable: " ++ value.label
  | unsupported u => "Unsupported: " ++ u.message
  | invalidOperand fault => "Invalid operand: " ++ fault.message
  | scriptTooLarge size limit => s!"Script too large: {size} bytes (limit {limit})"
  | invalidPattern target group source =>
    "Invalid pattern: pattern for " ++ target.label ++ " lacks capture group '" ++
      String.ofList group ++ "': " ++ String.ofList source
  | invalidSetting key value fault =>
    "Invalid configuration: " ++ String.ofList key ++ "=" ++ String.ofList value ++ ": " ++
      fault.message
  | badPattern => "Regex error"
  | json _ => "JSON error"
  | url fault => "URL parsing error: " ++ fault.message
  | lifetimeTooLong => "Cache lifetime above 1000 years"
  | undefinedAccess => "Access out of bounds"

/-- Whether a newer script may succeed where this one failed. -/
def isStale : Failure → Bool
  | noMatch _ | extraction _ => true
  | _ => false

end Failure
end Unscramble
