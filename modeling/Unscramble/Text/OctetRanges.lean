import Unscramble.Text.Ranges

/-! The UTF-8 forms of a range of characters, as sequences of octet ranges: a form belongs to a
sequence when each of its octets is in the range at its place. -/
namespace Unscramble.Utf8

abbrev OctetRange := Nat × Nat

def anyTail : OctetRange := (0x80, 0xBF)

/-- The numbers from `lo` to `hi`, written as one octet counted from `first` on and `count` octets
of six bits each. At an end of the range, the numbers with one first octet stand apart unless all
numbers with it are in the range. -/
def octetRangesBelow (first : Nat) : Nat → Nat → Nat → List (List OctetRange)
  | 0, lo, hi => [[(first + lo, first + hi)]]
  | count + 1, lo, hi =>
    let unit := Nat.pow 64 (count + 1)
    let a := lo / unit
    let b := hi / unit
    let sharing (a lo hi : Nat) :=
      (octetRangesBelow 0x80 count lo hi).map ((first + a, first + a) :: ·)
    if a = b then sharing a (lo % unit) (hi % unit)
    else
      let headApart := lo % unit ≠ 0
      let lastApart := hi % unit ≠ unit - 1
      let low := if headApart then a + 1 else a
      let high := if lastApart then b - 1 else b
      (if headApart then sharing a (lo % unit) (unit - 1) else []) ++
      (if low ≤ high then
        [(first + low, first + high) :: List.replicate (count + 1) anyTail] else []) ++
      if lastApart then sharing b 0 (hi % unit) else []

structure Block where
  lo : Nat
  hi : Nat
  first : Nat
  count : Nat

def blocks : List Block :=
  [⟨0, 0x7F, 0, 0⟩, ⟨0x80, 0x7FF, 0xC0, 1⟩, ⟨0x800, 0xD7FF, 0xE0, 2⟩, ⟨0xE000, 0xFFFF, 0xE0, 2⟩,
   ⟨0x10000, 0x10FFFF, 0xF0, 3⟩]

def octetRanges (rs : Text.Ranges) : List (List OctetRange) :=
  rs.flatMap fun r => blocks.flatMap fun b =>
    match Text.Ranges.overlap? r (b.lo, b.hi) with
    | none => []
    | some (lo, hi) => octetRangesBelow b.first b.count lo hi

end Unscramble.Utf8
