import Std.Data.TreeMap
import Unscramble.Regex.Basic
import Unscramble.Regex.Branches
import Unscramble.Text.OctetRanges
import Unscramble.Text.Utf8

/-! The room that an expression takes as automata over octets, of which it has two: one reads the
text forwards and takes note of groups, one reads it backwards. A state takes 32 octets. What leads
on from it takes 8 for each range of octets when there may be several, and 4 for each way that
takes no octet. An automaton has room for 10 MiB. Nothing is built here: states are counted in the
order in which they would be laid out, which matters where states are shared. -/
namespace Unscramble.Regex

inductive Direction where
  | forwards | backwards
  deriving DecidableEq, Repr

/-- The part of an automaton that is laid out. -/
structure Layout where
  states : Nat
  ways : Nat
  deriving DecidableEq, Repr

namespace Layout

def room : Nat := 10485760

def octets (l : Layout) : Nat := 32 * l.states + l.ways

def grow (states ways : Nat) (l : Layout) : Option Layout :=
  let l : Layout := ⟨l.states + states, l.ways + ways⟩
  if l.octets ≤ room then some l else none

def fork (l : Layout) : Option Layout := l.grow 1 8

def copies (f : Layout → Option Layout) : Nat → Layout → Option Layout
  | 0, l => some l
  | n + 1, l =>
    match f l with
    | none => none
    | some l => copies f n l

end Layout

def hashStart : UInt64 := 14695981039346656037
def hashFactor : UInt64 := 1099511628211

def slot (count : Nat) (key : List Nat) : Nat :=
  (key.foldl (fun h n => (h ^^^ n.toUInt64) * hashFactor) hashStart).toNat % count

def backwardSlots : Nat := 1000

def forwardSlots : Nat := 10000

/-- States laid out for a class. Those from which the same leads on are shared as long as they are
remembered: the table has a slot for each key, where a new key displaces the old one. -/
structure Sharing where
  layout : Layout
  table : Std.TreeMap Nat (List Nat × Nat)

/-- The number of the state with a key; if it is not remembered, the state is laid out. -/
def Sharing.state (slots ways : Nat) (key : List Nat) (s : Sharing) : Nat × Sharing :=
  let i := slot slots key
  let n := s.layout.states
  let fresh : Nat × Sharing := (n, ⟨⟨n + 1, s.layout.ways + ways⟩, s.table.insert i (key, n)⟩)
  match s.table[i]? with
  | some (known, m) => if known = key then (m, s) else fresh
  | none => fresh

def backwardStates (stop : Nat) (sequence : List Utf8.OctetRange) (s : Sharing) : Sharing :=
  (sequence.foldl (fun (target, s) r => s.state backwardSlots 0 [target, r.1, r.2]) (stop, s)).2

/-- The state from which sequences of at most `depth` ranges lead to `stop`. Sequences with the same
first range go on from one state. -/
def forwardState (stop : Nat) : Nat → List (List Utf8.OctetRange) → Sharing → Nat × Sharing
  | 0, _, s => (stop, s)
  | depth + 1, sequences, s =>
    if sequences.all List.isEmpty then (stop, s)
    else
      let groups := sequences.splitBy fun a b => a.head? == b.head?
      let (key, s) := groups.foldl (fun (key, s) group =>
        let (target, s) := forwardState stop depth (group.map List.tail) s
        match group with
        | ((lo, hi) :: _) :: _ => (key ++ [lo, hi, target], s)
        | _ => (key, s)) (([] : List Nat), s)
      s.state forwardSlots (8 * groups.length) key

namespace Layout

def addRanges (d : Direction) (rs : Text.Ranges) (l : Layout) : Option Layout :=
  if rs.isAscii then l.grow 2 (8 * rs.length)
  else
    let sequences := Utf8.octetRanges rs
    match d with
    | .forwards =>
      (forwardState l.states 5 sequences ⟨⟨l.states + 1, l.ways⟩, ∅⟩).2.layout.grow 0 0
    | .backwards =>
      (sequences.foldl (fun s q => backwardStates (l.states + 1) q s)
        ⟨⟨l.states + 2, l.ways + 4 * sequences.length⟩, ∅⟩).layout.grow 0 0

def addClass (d : Direction) (k : CharClass) (l : Layout) : Option Layout :=
  match k.single? with
  | some c => l.grow c.utf8Size 0
  | none => l.addRanges d k.ranges

def addOctets : Nat → Layout → Option Layout
  | 0, l => some l
  | 1, l => l.grow 1 4
  | count, l => l.grow 1 (8 * count + 4)

/-- States for branches, of which `count` octets have been seen since the last end of a word. -/
def addBranches : Branches → Nat → Layout → Option Layout
  | .none, count, l => l.addOctets count
  | .way _ behind others, count, l => do
    let l ← if behind.hasWay then addBranches behind 0 (← l.grow 1 0) else some l
    addBranches others (count + 1) l
  | .stop others, count, l => do
    addBranches others 0 (← (← l.addOctets count).grow 0 4)

def addWords (words : List (List Nat)) (l : Layout) : Option Layout := do
  addBranches (.ofWords words) 0 (← l.grow 2 0)

def exactly (f : Layout → Option Layout) (n : Nat) (l : Layout) : Option Layout :=
  if n = 0 then l.grow 1 0 else l.copies f n

def addTimes (k : Times) (alwaysTakes : Bool) (f : Layout → Option Layout) (l : Layout) :
    Option Layout :=
  match k with
  | ⟨0, some 1⟩ => do (← f (← l.fork)).grow 1 0
  | ⟨0, none⟩ => if alwaysTakes then do f (← l.fork) else do (← f l).grow 3 16
  | ⟨least, none⟩ => do (← l.copies f least).fork
  | ⟨least, some most⟩ =>
    if most ≤ least then l.exactly f least
    else do (← (← l.exactly f least).grow 1 0).copies (fun l => do f (← l.fork)) (most - least)

end Layout

inductive Rank where
  | notIn | second | later
  deriving DecidableEq, Repr

/-- What is laid out for the choice behind an alternative: at the second one, the fork with ways to
the first two, and the end; then one more way each. The first one is like an expression alone. -/
def Rank.close : Rank → Layout → Option Layout
  | notIn, l => some l
  | second, l => l.grow 2 8
  | later, l => l.grow 0 4

def Direction.octets (d : Direction) (t : Text) : List Nat :=
  match d with
  | forwards => Utf8.encode t
  | backwards => (Utf8.encode t).reverse

def layOut (d : Direction) : Regex → Rank → Layout → Option Layout
  | empty, rank, l | look _, rank, l => do rank.close (← l.grow 1 0)
  | char k, rank, l => do rank.close (← l.addClass d k)
  | seq a b, rank, l => do
    rank.close <| ← match d with
      | .forwards => do layOut d b .notIn (← layOut d a .notIn l)
      | .backwards => do layOut d a .notIn (← layOut d b .notIn l)
  | alt a b, .notIn, l =>
    match (alt a b).alternatives.mapM literal? with
    | some ts => l.addWords (ts.map d.octets)
    | none => do layOut d b .second (← layOut d a .notIn l)
  | alt a b, rank, l => do layOut d b .later (← rank.close (← layOut d a .notIn l))
  | repeated _ k r, rank, l => do
    rank.close (← l.addTimes k r.alwaysTakes (layOut d r .notIn))
  | group _ r, rank, l => do
    rank.close <| ← match d with
      | .forwards => do (← layOut d r .notIn (← l.grow 1 0)).grow 1 0
      | .backwards => layOut d r .notIn l

def isAnchored : Direction → Regex → Bool
  | .forwards, r => r.isAnchoredAtStart
  | .backwards, r => r.isAnchoredAtEnd

/-- The automaton of an expression, if there is room for it. Unless all matches begin at one end of
the text, a lazy loop over any octets comes first; last of all comes the state of a match. -/
def layout? (d : Direction) (r : Regex) : Option Layout := do
  let start : Layout := ⟨0, 0⟩
  let start ← if isAnchored d r then start.grow 1 0 else start.grow 3 16
  match d with
  | .forwards => (← layOut d r .notIn (← start.grow 1 0)).grow 2 0
  | .backwards => (← layOut d r .notIn start).grow 1 0

def fits (r : Regex) : Bool := (r.layout? .forwards).isSome && (r.layout? .backwards).isSome

end Unscramble.Regex
