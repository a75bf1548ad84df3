import Unscramble.Regex.Automaton
import Unscramble.Regex.Bracket

/-! Putting expressions together from the pieces that are written. -/
namespace Unscramble.Regex

def maxDepth : Nat := 250

def parts : Regex → List Regex
  | empty => []
  | seq a b => a :: b.parts
  | r => [r]

def firstMatching : List Regex → Regex
  | [] => empty
  | [r] => r
  | r :: s :: rest => alt r (firstMatching (s :: rest))

/-- Each run of single characters as one element, and every other part as one. -/
def elements : List Regex → List (List Regex)
  | [] => []
  | r :: rs =>
    match elements rs with
    | (s :: run) :: others =>
      if r.singleChar?.isSome && s.singleChar?.isSome then (r :: s :: run) :: others
      else [r] :: (s :: run) :: others
    | others => [r] :: others

def commonStart : List (List Regex) → List (List (List Regex)) → List (List Regex)
  | [], _ => []
  | e :: es, others =>
    if others.all (·.head? == some e) then e :: commonStart es (others.map List.tail) else []

def flattened : List Regex → List (List Regex)
  | [r] => r.alternatives.map parts
  | rs => [rs]

def lone? : List Regex → Option Regex
  | [r] => some r
  | _ => none

/-- The class of alternatives that are all single characters, or all classes of several. -/
def classOf? (alternatives : List (List Regex)) : Option CharClass := do
  let ks ← alternatives.mapM fun rs => do (← lone? rs).charClass?
  if ks.all (·.single?.isSome) || ks.all (·.single?.isNone) then return .joined ks else none

/-- A choice between sequences. Single characters make up one class, and so do classes. When each
sequence has several elements, those that all begin with are matched before the choice is made; what
they leave is a choice again, and `bound` exceeds how often there is something in common. -/
def choiceWithin : Nat → List (List Regex) → List Regex
  | 0, rss => [firstMatching (rss.map sequence)]
  | bound + 1, rss =>
    match rss.flatMap flattened with
    | [rs] => rs
    | rss =>
      match classOf? rss with
      | some k => [char k]
      | none =>
        let common : List Regex :=
          match rss.map elements with
          | [] => []
          | es :: others =>
            if (es :: others).all (2 ≤ ·.length) then (commonStart es others).flatten else []
        if common.isEmpty then [firstMatching (rss.map sequence)]
        else common ++ choiceWithin bound (rss.map (·.drop common.length))

def choice (rss : List (List Regex)) : List Regex :=
  choiceWithin (rss.foldl (fun n rs => rs.foldl (fun n r => n + r.count) n) 1) rss

/-- An expression as it is written: its parts in sequence, the names of all groups, and how deep it
is nested. -/
structure Piece where
  parts : List Regex
  names : List Text
  depth : Nat

namespace Piece

def nothing : Piece := ⟨[], [], 0⟩

def one (r : Regex) : Piece := ⟨[r], [], 0⟩

def ofChar (c : Char) : Piece := one (char (.single c))

def ofEscape : Escape → Piece
  | .char c => ofChar c
  | .oneOf k => one (char (.ofRanges k))
  | .look l => one (look l)

def ofBracket (b : Bracket) : Piece := ⟨[char (.ofRanges b.chars)], [], b.depth⟩

def join (f : List (List Regex) → List Regex) (ps : List Piece) : Piece :=
  ⟨f (ps.map Piece.parts), ps.flatMap (·.names), 1 + (ps.map (·.depth)).foldl max 0⟩

def sequence : List Piece → Piece
  | [] => nothing
  | [p] => p
  | ps => join List.flatten ps

def choice : List Piece → Piece
  | [p] => p
  | ps => join Regex.choice ps

def grouped (key : Option GroupKey) (p : Piece) : Piece :=
  match key with
  | none => { p with depth := p.depth + 1 }
  | some key => ⟨[group key (Regex.sequence p.parts)], (group key empty).groupNames ++ p.names,
      p.depth + 1⟩

/-- The parts of a repetition. One that never runs has none, whatever it repeats. -/
def repeatedParts (eager : Bool) (k : Times) (rs : List Regex) : List Regex :=
  let r := Regex.sequence rs
  let k := if r.isAlwaysEmpty then k.once else k
  if k = ⟨0, some 0⟩ then []
  else if k = ⟨1, some 1⟩ then rs
  else [Regex.repeated eager k r]

def repeated (eager : Bool) (k : Times) (p : Piece) : Piece :=
  ⟨repeatedParts eager k p.parts, p.names, p.depth + 1⟩

/-- The expression, if it is not too large, not too deep, and no two groups share a name. -/
def toRegex? (p : Piece) : Option Regex :=
  let r := Regex.sequence p.parts
  if p.depth ≤ maxDepth && p.names.Nodup && r.fits then some r else none

end Piece
end Unscramble.Regex
