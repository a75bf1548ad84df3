/-! Sets of code points given by ranges. In normal form the ranges increase and do not touch. -/
namespace Unscramble.Text

abbrev Ranges := List (Nat × Nat)

/-- Membership in increasing ranges; the search ends at the first range above `n`. -/
def inRanges : Ranges → Nat → Bool
  | [], _ => false
  | (lo, hi) :: rest, n => if n < lo then false else if n ≤ hi then true else inRanges rest n

namespace Ranges

def ofChars (rs : List (Char × Char)) : Ranges := rs.map fun r => (r.1.toNat, r.2.toNat)

def absorb (lo hi : Nat) : Ranges → Ranges
  | [] => [(lo, hi)]
  | (l, h) :: rest =>
    if l ≤ hi + 1 then absorb lo (max hi h) rest else (lo, hi) :: absorb l h rest

def coalesce : Ranges → Ranges
  | [] => []
  | (lo, hi) :: rest => absorb lo hi rest

def normal (rs : Ranges) : Ranges := coalesce (rs.mergeSort fun a b => a.1 ≤ b.1)

def union (a b : Ranges) : Ranges := normal (a ++ b)

/-- The code point of the next character: none is between U+D7FF and U+E000. -/
def next (n : Nat) : Nat := if n = 0xD7FF then 0xE000 else n + 1

def previous (n : Nat) : Nat := if n = 0xE000 then 0xD7FF else n - 1

def greatest : Nat := 0x10FFFF

/-- What lies between ranges, from behind `hi` on. Ranges that end with U+D7FF and begin with U+E000
do not touch, and the gap between them counts as these two characters. -/
def gaps (hi : Nat) : Ranges → Ranges
  | [] => if hi < greatest then [(next hi, greatest)] else []
  | (l, h) :: rest => (min (next hi) (previous l), max (next hi) (previous l)) :: gaps h rest

def complement : Ranges → Ranges
  | [] => [(0, greatest)]
  | (lo, hi) :: rest => if lo = 0 then gaps hi rest else (0, previous lo) :: gaps hi rest

def overlap? (a b : Nat × Nat) : Option (Nat × Nat) :=
  if max a.1 b.1 ≤ min a.2 b.2 then some (max a.1 b.1, min a.2 b.2) else none

def intersection (a b : Ranges) : Ranges := a.flatMap fun r => b.filterMap (overlap? r)

def cutOut (lo hi : Nat) : Ranges → Ranges
  | [] => [(lo, hi)]
  | (l, h) :: rest =>
    if h < lo then cutOut lo hi rest
    else if hi < l then [(lo, hi)]
    else (if lo < l then [(lo, previous l)] else []) ++
      if h < hi then cutOut (next h) hi rest else []

def difference (a b : Ranges) : Ranges := a.flatMap fun r => cutOut r.1 r.2 b

def symmetricDifference (a b : Ranges) : Ranges := difference (union a b) (intersection a b)

def isAscii (rs : Ranges) : Bool := rs.all (·.2 < 128)

end Ranges
end Unscramble.Text
