import Unscramble.Duration.Basic

/-! A store of values by name. It has room for so many values and keeps none for longer than its
lifetime; which ones it gives up when it is full is its own affair. -/
namespace Unscramble

/-- What a store in one of the states `S` is asked for. Time, in nanoseconds, passes while it waits. -/
structure Store (S α : Type) where
  create : (capacity : Nat) → (lifetime : Duration) → S
  get : S → Text → Option α × S
  insert : S → Text → α → S
  invalidate : S → Text → S
  clear : S → S
  wait : S → Nat → S

/-- Values by name with the time at which they were put in, the last one first. -/
structure Shelf (α : Type) where
  capacity : Nat
  lifetime : Nat
  clock : Nat
  entries : List (Text × Nat × α)

namespace Shelf
variable {α : Type}

def get? (s : Shelf α) (name : Text) : Option α :=
  ((s.entries.lookup name).filter fun e => s.clock < e.1 + s.lifetime).map (·.2)

def without (s : Shelf α) (name : Text) : List (Text × Nat × α) := s.entries.filter (·.1 != name)

def insert (s : Shelf α) (name : Text) (value : α) : Shelf α :=
  { s with entries := ((name, s.clock, value) :: s.without name).take s.capacity }

/-- The store that gives up what was put in first. -/
def store : Store (Shelf α) α where
  create capacity lifetime := ⟨capacity, lifetime.nanoseconds, 0, []⟩
  get s name := (s.get? name, s)
  insert := insert
  invalidate s name := { s with entries := s.without name }
  clear s := { s with entries := [] }
  wait s time := { s with clock := s.clock + time }

end Shelf
end Unscramble
