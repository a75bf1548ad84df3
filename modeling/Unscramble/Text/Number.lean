import Unscramble.Text.Basic

/-! Decimal numbers within a bound: how they are written and which texts are read as one. -/
namespace Unscramble

inductive NumberFault where
  | empty | invalidDigit | tooLarge
  deriving DecidableEq, Repr

def NumberFault.message : NumberFault → String
  | .empty => "cannot parse integer from empty string"
  | .invalidDigit => "invalid digit found in string"
  | .tooLarge => "number too large to fit in target type"

namespace Number

def maxWord : Nat := 18446744073709551615

def maxHalfWord : Nat := 4294967295

def maxSigned : Nat := 9223372036854775807

def render (n : Nat) : Text := Nat.toDigits 10 n

def renderInt : Int → Text
  | .ofNat n => render n
  | .negSucc n => '-' :: render (n + 1)

def digit? (c : Char) : Option Nat :=
  if c.isDigit then some (c.toNat - '0'.toNat) else none

def hexDigit? (c : Char) : Option Nat :=
  if c.isDigit then some (c.toNat - '0'.toNat)
  else if 'a' ≤ c && c ≤ 'f' then some (c.toNat - 'a'.toNat + 10)
  else if 'A' ≤ c && c ≤ 'F' then some (c.toNat - 'A'.toNat + 10)
  else none

/-- Reads digits after the value `acc`; of two faults the one further left is reported. -/
def readDigits (bound acc : Nat) : Text → Except NumberFault Nat
  | [] => .ok acc
  | c :: t => match digit? c with
    | none => .error .invalidDigit
    | some d => if acc * 10 + d ≤ bound then readDigits bound (acc * 10 + d) t else .error .tooLarge

/-- One `+` may stand in front, and leading zeros count for nothing. -/
def read (bound : Nat) : Text → Except NumberFault Nat
  | [] => .error .empty
  | ['+'] => .error .invalidDigit
  | '+' :: t => readDigits bound 0 t
  | t => readDigits bound 0 t

def readSigned? : Text → Option Int
  | ['-'] => none
  | '-' :: t => (readDigits (maxSigned + 1) 0 t).toOption.map fun n => -(n : Int)
  | t => (read maxSigned t).toOption.map Int.ofNat

end Number
end Unscramble
