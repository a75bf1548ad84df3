/-! Words in a tree, where words that begin alike share their beginning until one of them ends: it
is tried before the words that come later. -/
namespace Unscramble.Regex

/-- What can come next, in order: an octet with what comes behind it, or the end of a word. -/
inductive Branches where
  | none
  | way (octet : Nat) (behind : Branches) (others : Branches)
  | stop (others : Branches)
  deriving DecidableEq, Repr

namespace Branches

def hasStop : Branches → Bool
  | none => false
  | way _ _ others => others.hasStop
  | stop _ => true

def hasWay : Branches → Bool
  | none => false
  | way _ _ _ => true
  | stop others => others.hasWay

def addStop : Branches → Branches
  | none => stop none
  | way b behind others => way b behind others.addStop
  | stop others => stop others.addStop

def adjust (octet : Nat) (f : Branches → Branches) : Branches → Branches
  | none => way octet (f none) none
  | way b behind others =>
    if b = octet && !others.hasStop then way b (f behind) others
    else way b behind (others.adjust octet f)
  | stop others => stop (others.adjust octet f)

/-- Another word. Where a word ends and none goes on, its end is not said twice. -/
def insert : List Nat → Branches → Branches
  | [], stop none => stop none
  | [], t => t.addStop
  | b :: bs, t => t.adjust b (insert bs)

def ofWords (words : List (List Nat)) : Branches := words.foldl (fun t w => t.insert w) none

end Branches
end Unscramble.Regex
