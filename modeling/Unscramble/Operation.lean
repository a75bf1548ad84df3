import Unscramble.Text.Basic

/-! The mutations of a sequence that a scrambled script is made of. -/
namespace Unscramble

inductive Operation where
  | reverse | splice | swap | unshift | push | prepend | nestedSplice | cipherDispatch
  deriving DecidableEq, Repr

namespace Operation

def label : Operation → String
  | reverse => "reverse"
  | splice => "splice"
  | swap => "swap"
  | unshift => "unshift"
  | push => "push"
  | prepend => "prepend"
  | nestedSplice => "nested splice"
  | cipherDispatch => "cipher dispatch"

def all : List Operation :=
  [reverse, splice, swap, unshift, push, prepend, nestedSplice, cipherDispatch]

def tag : Operation → Text
  | reverse => "Reverse".toList
  | splice => "Splice".toList
  | swap => "Swap".toList
  | unshift => "Unshift".toList
  | push => "Push".toList
  | prepend => "Prepend".toList
  | nestedSplice => "NestedSplice".toList
  | cipherDispatch => "CipherDispatch".toList

def ofTag? (t : Text) : Option Operation := all.find? (·.tag == t)

theorem mem_all (o : Operation) : o ∈ all := by cases o <;> simp [all]

theorem ofTag?_tag (o : Operation) : ofTag? o.tag = some o := by cases o <;> decide

end Operation
end Unscramble
