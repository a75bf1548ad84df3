import Unscramble.Text.Blank
import Unscramble.Text.Digit
import Unscramble.Text.Word

/-! Classes of characters that an expression can ask for. -/
namespace Unscramble

inductive CharClass where
  | within (ranges : Text.Ranges)
  | range (lo hi : Char)
  | digit | blank | word
  | either (a b : CharClass)
  | except (a : CharClass)
  deriving DecidableEq, Repr

namespace CharClass

def contains : CharClass → Char → Bool
  | within rs, c => Text.inRanges rs c.toNat
  | range lo hi, c => lo ≤ c && c ≤ hi
  | digit, c => Text.isDigit c
  | blank, c => Text.isBlank c
  | word, c => Text.isWord c
  | either a b, c => a.contains c || b.contains c
  | except a, c => !a.contains c

def ranges : CharClass → Text.Ranges
  | within rs => rs
  | range lo hi => if lo ≤ hi then [(lo.toNat, hi.toNat)] else []
  | digit => Text.digitSet
  | blank => Text.blankSet
  | word => Text.wordSet
  | either a b => a.ranges.union b.ranges
  | except a => a.ranges.complement

def single (c : Char) : CharClass := range c c

def single? : CharClass → Option Char
  | range lo hi => if lo = hi then some lo else none
  | _ => none

/-- The class of ranges in normal form; one character is a class of its own kind. -/
def ofRanges : Text.Ranges → CharClass
  | [(lo, hi)] => if lo = hi then single (Char.ofNat lo) else within [(lo, hi)]
  | rs => within rs

/-- Every character but the line feed. -/
def inLine : CharClass := except (single '\n')

def union : CharClass → List CharClass → CharClass
  | a, [] => a
  | a, b :: rest => either a (union b rest)

def oneOf (c : Char) (cs : Text) : CharClass := union (single c) (cs.map single)

def joined (ks : List CharClass) : CharClass := ofRanges (.normal (ks.flatMap ranges))

end CharClass
end Unscramble
