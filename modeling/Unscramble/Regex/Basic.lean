import Unscramble.Regex.CharClass

/-! Regular expressions, and the places of a text that they are matched at. -/
namespace Unscramble

inductive Look where
  | textStart | textEnd
  | wordBoundary (present : Bool)
  /-- What the neighbours are, each if it is asked for. -/
  | flanks (before after : Option Bool)
  deriving DecidableEq, Repr

namespace Look

def wordStart : Look := flanks (some false) (some true)
def wordEnd : Look := flanks (some true) (some false)

end Look

/-- Groups without a name have a number, so that no two groups are the same. -/
inductive GroupKey where
  | named (name : Text) | numbered (n : Nat)
  deriving DecidableEq, Repr

structure Times where
  least : Nat
  most : Option Nat
  deriving DecidableEq, Repr

/-- What never takes a character need not run more than once. -/
def Times.once (k : Times) : Times := ⟨min k.least 1, some (min (k.most.getD 1) 1)⟩

/-- An eager repetition prefers to go on, a lazy one to stop. -/
inductive Regex where
  | empty
  | char (c : CharClass)
  | look (l : Look)
  | seq (a b : Regex)
  | alt (a b : Regex)
  | repeated (eager : Bool) (k : Times) (r : Regex)
  | group (key : GroupKey) (r : Regex)
  deriving DecidableEq, Repr

namespace Regex

/-- A place in a text: its offset, the character before it and the text after it. -/
structure Place where
  offset : Nat
  before : Option Char
  rest : Text
  deriving DecidableEq, Repr

def Place.start (t : Text) : Place := ⟨0, none, t⟩

def Place.past (p : Place) (c : Char) (t : Text) : Place := ⟨p.offset + c.utf8Size, some c, t⟩

def Place.wordBefore (p : Place) : Bool := p.before.any Text.isWord
def Place.wordAfter (p : Place) : Bool := p.rest.head?.any Text.isWord

def Place.meets (p : Place) : Look → Bool
  | .textStart => p.offset == 0
  | .textEnd => p.rest.isEmpty
  | .wordBoundary present => (p.wordBefore != p.wordAfter) == present
  | .flanks before after => before.all (· == p.wordBefore) && after.all (· == p.wordAfter)

structure Capture where
  origin : Place
  stop : Nat
  deriving DecidableEq, Repr

/-- The captured text; it is cut out only when it is asked for. -/
def Capture.toMatch (c : Capture) : Match :=
  ⟨(c.origin.rest.takeBytes? (c.stop - c.origin.offset)).getD [], ⟨c.origin.offset, c.stop⟩⟩

/-- A place reached by a match, with the groups seen on the way, the latest first. -/
structure State where
  place : Place
  groups : List (GroupKey × Capture)
  deriving DecidableEq, Repr

def State.start (p : Place) : State := ⟨p, []⟩

def State.past (s : State) (c : Char) (t : Text) : State := { s with place := s.place.past c t }

def State.record (key : GroupKey) (origin : Place) (s : State) : State :=
  { s with groups := (key, ⟨origin, s.place.offset⟩) :: s.groups }

def groupNames : Regex → List Text
  | seq a b | alt a b => a.groupNames ++ b.groupNames
  | repeated _ _ r | group (.numbered _) r => r.groupNames
  | group (.named n) r => n :: r.groupNames
  | _ => []

/-- A bound on the number of characters in a match, from below. There is none for an expression
with a class of no characters in its way. -/
def leastLength : Regex → Option Nat
  | empty | look _ => some 0
  | char k => if k = .within [] then none else some 1
  | seq a b => do return (← a.leastLength) + (← b.leastLength)
  | alt a b => do return min (← a.leastLength) (← b.leastLength)
  | repeated _ k r => r.leastLength.map (k.least * ·)
  | group _ r => r.leastLength

def alwaysTakes (r : Regex) : Bool := r.leastLength.any (0 < ·)

def isAlwaysEmpty : Regex → Bool
  | empty | look _ => true
  | char _ => false
  | seq a b | alt a b => a.isAlwaysEmpty && b.isAlwaysEmpty
  | repeated _ _ r | group _ r => r.isAlwaysEmpty

def singleChar? : Regex → Option Char
  | char k => k.single?
  | _ => none

def charClass? : Regex → Option CharClass
  | char k => some k
  | _ => none

def literal? : Regex → Option Text
  | char k => k.single?.map ([·])
  | seq a b => do return (← a.singleChar?) :: (← b.literal?)
  | _ => none

def alternatives : Regex → List Regex
  | alt a b => a :: b.alternatives
  | r => [r]

def count : Regex → Nat
  | empty | char _ | look _ => 1
  | seq a b | alt a b => a.count + b.count + 1
  | repeated _ _ r | group _ r => r.count + 1

def isAnchoredAtStart : Regex → Bool
  | look l => l = .textStart
  | seq a b => a.isAnchoredAtStart || (a.isAlwaysEmpty && b.isAnchoredAtStart)
  | alt a b => a.isAnchoredAtStart && b.isAnchoredAtStart
  | repeated _ k r => 0 < k.least && r.isAnchoredAtStart
  | group _ r => r.isAnchoredAtStart
  | _ => false

def isAnchoredAtEnd : Regex → Bool
  | look l => l = .textEnd
  | seq a b => b.isAnchoredAtEnd || (b.isAlwaysEmpty && a.isAnchoredAtEnd)
  | alt a b => a.isAnchoredAtEnd && b.isAnchoredAtEnd
  | repeated _ k r => 0 < k.least && r.isAnchoredAtEnd
  | group _ r => r.isAnchoredAtEnd
  | _ => false

def sequence : List Regex → Regex
  | [] => empty
  | [r] => r
  | r :: s :: rest => seq r (sequence (s :: rest))

def literal (t : Text) : Regex := sequence (t.map fun c => char (.single c))

def named (name : Text) (r : Regex) : Regex := group (.named name) r

def star (eager : Bool) (r : Regex) : Regex := repeated eager ⟨0, none⟩ r

def plus (eager : Bool) (r : Regex) : Regex := repeated eager ⟨1, none⟩ r

def optional (eager : Bool) (r : Regex) : Regex := repeated eager ⟨0, some 1⟩ r

def times (n : Nat) (r : Regex) : Regex := repeated true ⟨n, some n⟩ r

end Regex
end Unscramble
