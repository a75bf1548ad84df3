import Unscramble.Failure
import Unscramble.Regex.Reader
import Unscramble.Regex.Search

/-! Pattern sets: the expressions tried, in order, to find one thing. The first expression whose
leftmost match has the designated group decides. -/
namespace Unscramble

structure PatternSet where
  target : Target
  group : Text
  patterns : List Regex
  deriving DecidableEq, Repr

namespace PatternSet

def firstIn (group : Text) (text : Text) : List Regex → Option (Regex.Hit × Match)
  | [] => none
  | r :: rs => match r.search? text with
    | none => firstIn group text rs
    | some h => match h.group? group with
      | none => firstIn group text rs
      | some m => some (h, m)

/-- The deciding match and its designated group. -/
def first (s : PatternSet) (text : Text) : Except Failure (Regex.Hit × Match) :=
  match firstIn s.group text s.patterns with
  | none => .error (.noMatch s.target)
  | some found => .ok found

def firstMatch (s : PatternSet) (text : Text) : Except Failure Match :=
  (s.first text).map (·.2)

def readPattern (target : Target) (group source : Text) : Except Failure Regex :=
  match Regex.read? source with
  | none => .error .badPattern
  | some r =>
    if group ∈ r.groupNames then .ok r else .error (.invalidPattern target group source)

/-- A set from written expressions, each of which must name the designated group. -/
def ofSources (target : Target) (group : Text) (sources : List Text) : Except Failure PatternSet :=
  (sources.mapM (readPattern target group)).map (⟨target, group, ·⟩)

end PatternSet
end Unscramble
