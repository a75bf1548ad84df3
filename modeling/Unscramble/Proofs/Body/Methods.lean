import Mathlib.Data.List.Induction

/-! The list methods that the bodies of a script's operations are made of, over exact integers, and
what the loops among those bodies come to. -/
namespace Unscramble

/-- A body changes the list it is called on. It stops where it uses an element that is not there. -/
abbrev Body (α β : Type) := StateT (List α) Option β

namespace Body
variable {α β : Type}

def length : Body α Nat := fun xs => some (xs.length, xs)

def item (i : Int) : Body α α := fun xs =>
  if 0 ≤ i then xs[i.toNat]?.map (·, xs) else none

/-- `d[i]=v`, at an element that is there. -/
def assign (i : Int) (v : α) : Body α Unit := fun xs =>
  if 0 ≤ i ∧ i < xs.length then some ((), xs.set i.toNat v) else none

def push (v : α) : Body α Unit := fun xs => some ((), xs ++ [v])

def unshift (v : α) : Body α Unit := fun xs => some ((), v :: xs)

def pop : Body α α := fun xs => xs.getLast?.map (·, xs.dropLast)

def reverse : Body α Unit := fun xs => some ((), xs.reverse)

/-- Where a splice begins: a negative start counts from the end, and both ends hold it. -/
def spliceStart (start : Int) (length : Nat) : Nat :=
  if start < 0 then (length + start).toNat else min start.toNat length

/-- How many elements behind its beginning a splice removes: all of them if it does not say. -/
def spliceCount (count : Option Int) (behind : Nat) : Nat :=
  match count with
  | none => behind
  | some c => min c.toNat behind

/-- Puts `items` in place of the elements it removes, and returns those. -/
def splice (start : Int) (count : Option Int) (items : List α) : Body α (List α) := fun xs =>
  let i := spliceStart start xs.length
  let n := spliceCount count (xs.length - i)
  some ((xs.drop i).take n, xs.take i ++ items ++ xs.drop (i + n))

def first : List α → Body α α
  | [] => failure
  | x :: _ => pure x

/-- `e%d.length`, with the sign of `e`. -/
def remainder (e : Int) : Body α Int := do
  let n ← length
  if n = 0 then failure
  return e.tmod n

/-- `(e%d.length+d.length)%d.length` -/
def wrapped (e : Int) : Body α Int := do
  remainder ((← remainder e) + (← length))

/-- `for(;n--;)` before `body` -/
def rounds (body : Body α Unit) : Nat → Body α Unit
  | 0 => pure ()
  | n + 1 => do
    body
    rounds body n

@[simp]
theorem length_run (xs : List α) : (length : Body α Nat).run xs = some (xs.length, xs) := rfl

@[simp]
theorem push_run (x : α) (xs : List α) : (push x).run xs = some ((), xs ++ [x]) := rfl

@[simp]
theorem unshift_run (x : α) (xs : List α) : (unshift x).run xs = some ((), x :: xs) := rfl

@[simp]
theorem reverse_run (xs : List α) : (reverse : Body α Unit).run xs = some ((), xs.reverse) := rfl

theorem item_run {xs : List α} {n : Nat} (h : n < xs.length) :
    (item n).run xs = some (xs[n], xs) := by
  simp [item, StateT.run, h]

theorem assign_run {xs : List α} {n : Nat} (v : α) (h : n < xs.length) :
    (assign n v).run xs = some ((), xs.set n v) := by
  simp [assign, StateT.run, h]

theorem pop_run (xs : List α) (x : α) : (pop : Body α α).run (xs ++ [x]) = some (x, xs) := by
  simp [pop, StateT.run]

theorem splice_run (start : Int) (count : Option Int) (items xs : List α) :
    (splice start count items).run xs =
      let i := spliceStart start xs.length
      let n := spliceCount count (xs.length - i)
      some ((xs.drop i).take n, xs.take i ++ items ++ xs.drop (i + n)) := rfl

theorem spliceStart_front {n length : Nat} (h : n ≤ length) : spliceStart n length = n := by
  have hn : ¬(n : Int) < 0 := by omega
  simp [spliceStart, hn, h]

theorem spliceStart_back {n length : Nat} (hp : 0 < n) (h : n ≤ length) :
    spliceStart (-n) length = length - n := by
  have hn : -(n : Int) < 0 := by omega
  rw [spliceStart, if_pos hn]
  omega

theorem splice_at (items xs ys : List α) (x : α) :
    (splice xs.length (some 1) items).run (xs ++ x :: ys) = some ([x], xs ++ items ++ ys) := by
  have hs : spliceStart xs.length (xs ++ x :: ys).length = xs.length :=
    spliceStart_front (by simp)
  rw [splice_run, hs]
  simp [spliceCount]

theorem splice_set {xs : List α} {n : Nat} (v : α) (h : n < xs.length) :
    (splice n (some 1) [v]).run xs = some ([xs[n]], xs.set n v) := by
  have hs := splice_at [v] (xs.take n) (xs.drop (n + 1)) xs[n]
  rw [List.length_take_of_le (Nat.le_of_lt h)] at hs
  simpa [List.set_eq_take_append_cons_drop, h] using hs

theorem splice_erase {xs : List α} {n : Nat} (h : n < xs.length) :
    (splice n (some 1) []).run xs = some ([xs[n]], xs.eraseIdx n) := by
  have hs := splice_at [] (xs.take n) (xs.drop (n + 1)) xs[n]
  rw [List.length_take_of_le (Nat.le_of_lt h)] at hs
  simpa [List.eraseIdx_eq_take_drop_succ] using hs

theorem splice_front (n : Nat) (xs : List α) :
    (splice 0 (some n) []).run xs = some (xs.take n, xs.drop n) := by
  have hs : spliceStart 0 xs.length = 0 := spliceStart_front (Nat.zero_le _)
  rw [splice_run, hs]
  by_cases hn : n ≤ xs.length
  · simp [spliceCount, hn]
  · have hl : xs.length ≤ n := by omega
    simp [spliceCount, hl, List.take_of_length_le, List.drop_of_length_le]

theorem splice_back {xs : List α} {n : Nat} (h : n ≤ xs.length) :
    (splice (-n) none []).run xs =
      some (if n = 0 then (xs, []) else (xs.drop (xs.length - n), xs.take (xs.length - n))) := by
  by_cases hn : n = 0
  · have hs : spliceStart 0 xs.length = 0 := spliceStart_front (Nat.zero_le _)
    subst hn
    simp [splice_run, hs, spliceCount]
  · rw [splice_run, spliceStart_back (by omega) h]
    have ht : (xs.drop (xs.length - n)).take (xs.length - (xs.length - n)) =
        xs.drop (xs.length - n) := List.take_of_length_le (by simp)
    simp [spliceCount, hn, ht]

theorem remainder_run {xs : List α} (e : Int) (h : xs ≠ []) :
    (remainder e).run xs = some (e.tmod xs.length, xs) := by
  have hl : xs.length ≠ 0 := by simpa using h
  simp [remainder, hl]

theorem wrapped_run {xs : List α} (e : Int) (h : xs ≠ []) :
    (wrapped e).run xs = some (e % xs.length, xs) := by
  have hl : 0 < (xs.length : Int) := by
    have := List.length_pos_iff.2 h
    omega
  have hp : 0 ≤ e.tmod xs.length + xs.length := by
    have := Int.lt_tmod_of_pos e hl
    omega
  have he : (e.tmod xs.length + xs.length).tmod xs.length = e % xs.length := by
    rw [Int.tmod_eq_emod_of_nonneg hp, Int.add_emod_right, Int.tmod_def]
    simp
  simp [wrapped, remainder_run, h, he]

end Body
end Unscramble
