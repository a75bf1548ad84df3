import Unscramble.Text.Blank

/-! Splitting at top-level commas: those outside every bracket, parenthesis and quoted string.
A closer lowers the depth whatever its kind, but never below zero. -/
namespace Unscramble.Commas

/-- Whether the reading is inside a string; `escaped` holds for the one character after a
backslash. -/
inductive Quoting where
  | none | within (quote : Char) | escaped (quote : Char)
  deriving DecidableEq, Repr

structure Reading where
  depth : Nat
  quoting : Quoting
  deriving DecidableEq, Repr

def Reading.start : Reading := ⟨0, .none⟩

def Reading.step (r : Reading) (c : Char) : Reading :=
  match r.quoting with
  | .escaped q => ⟨r.depth, .within q⟩
  | .within q =>
    if c = '\\' then ⟨r.depth, .escaped q⟩
    else if c = q then ⟨r.depth, .none⟩ else r
  | .none =>
    if c = '"' || c = '\'' then ⟨r.depth, .within c⟩
    else if c = '(' || c = '[' || c = '\x7b' then ⟨r.depth + 1, .none⟩
    else if c = ')' || c = ']' || c = '\x7d' then ⟨r.depth - 1, .none⟩
    else r

def Reading.cutsAt (r : Reading) (c : Char) : Bool := r == .start && c == ','

def cutFrom? (r : Reading) : Text → Option (Text × Text)
  | [] => none
  | c :: t =>
    if r.cutsAt c then some ([], t)
    else (cutFrom? (r.step c) t).map fun (a, b) => (c :: a, b)

def cut? (t : Text) : Option (Text × Text) := cutFrom? .start t

def offset? (t : Text) : Option Nat := (cut? t).map (·.1.byteLength)

def rawPiecesFrom (r : Reading) : Text → List Text
  | [] => [[]]
  | c :: t =>
    if r.cutsAt c then [] :: rawPiecesFrom .start t
    else match rawPiecesFrom (r.step c) t with
      | [] => [[c]]
      | p :: ps => (c :: p) :: ps

def rawPieces (t : Text) : List Text := rawPiecesFrom .start t

def dropEmptyLast : List Text → List Text
  | [] => []
  | [p] => if p.isEmpty then [] else [p]
  | p :: q :: ps => p :: dropEmptyLast (q :: ps)

/-- The trimmed pieces between the top-level commas, without a blank last one. -/
def pieces (t : Text) : List Text := dropEmptyLast ((rawPieces t).map Text.trim)

end Unscramble.Commas
