/-! Mutations of a sequence. Each is undefined where it would reach outside the sequence. -/
namespace Unscramble.Sequence
variable {α : Type}

def swapFront? (n : Nat) (xs : List α) : Option (List α) := do
  let a ← xs[0]?
  let b ← xs[n]?
  return (xs.set 0 b).set n a

def rotateRight? (n : Nat) (xs : List α) : Option (List α) :=
  if n ≤ xs.length then some (xs.drop (xs.length - n) ++ xs.take (xs.length - n)) else none

def removeAt? (n : Nat) (xs : List α) : Option (List α) :=
  if n < xs.length then some (xs.eraseIdx n) else none

def dropFront? (n : Nat) (xs : List α) : Option (List α) :=
  if n ≤ xs.length then some (xs.drop n) else none

/-- The index that `e` stands for in a sequence of `length` elements, counted around it. -/
def wrap? (e : Int) (length : Nat) : Option Nat :=
  if length = 0 then none else some (e % length).toNat

end Unscramble.Sequence
