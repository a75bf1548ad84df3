import Std.Data.TreeSet
import Unscramble.Regex.Basic

/-! Searching a text for an expression. The ways to match are tried in order of preference: the
left side of a choice first, one turn more of an eager repetition before its end. An expression
has numbered points, where ways meet, and no way goes through a point at a place where another
way has been: what lies behind has been tried then, or is being tried. So a search takes a number
of steps in proportion to the text, and turns of a repetition that take nothing do not go on. -/
namespace Unscramble.Regex

abbrev Passed := Std.TreeSet (Nat × Nat) (compareLex (compareOn Prod.fst) (compareOn Prod.snd))

/-- What is left to match from a state: the last state if it matches, and the points passed. -/
abbrev Rest := State → Passed → Option State × Passed

/-- Goes on with `k` unless the point has been passed at this place. -/
def once (point : Nat) (k : Rest) : Rest := fun s passed =>
  if passed.contains (point, s.place.offset) then (none, passed)
  else k s (passed.insert (point, s.place.offset))

def orElse (k l : Rest) : Rest := fun s passed =>
  match k s passed with
  | (some t, passed) => (some t, passed)
  | (none, passed) => l s passed

def turnOrEnd (eager : Bool) (turn : Rest) (k : Rest) : Rest :=
  if eager then orElse turn k else orElse k turn

/-- Any number of turns of `body`; `bound` exceeds the number of places left. -/
def starTurns (point : Nat) (eager : Bool) (body : Rest → Rest) (k : Rest) : Nat → Rest
  | 0 => fun _ passed => (none, passed)
  | bound + 1 => once point (turnOrEnd eager (body (starTurns point eager body k bound)) k)

def plusTurns (point : Nat) (eager : Bool) (body : Rest → Rest) (k : Rest) : Nat → Rest
  | 0 => fun _ passed => (none, passed)
  | bound + 1 => once point (body (turnOrEnd eager (plusTurns point eager body k bound) k))

def one (c : CharClass) (k : Rest) : Rest := fun s passed =>
  match s.place.rest with
  | [] => (none, passed)
  | d :: t => if c.contains d then k (s.past d t) passed else (none, passed)

/-- The states before, between and after characters of the class, the last one first, up to the
end of the run or to a place where the point has been passed. -/
def walk (point : Nat) (c : CharClass) (s : State) (ends : List State) (passed : Passed) :
    Text → List State × Passed
  | [] =>
    if passed.contains (point, s.place.offset) then (ends, passed)
    else (s :: ends, passed.insert (point, s.place.offset))
  | d :: t =>
    if passed.contains (point, s.place.offset) then (ends, passed)
    else
      let passed := passed.insert (point, s.place.offset)
      if c.contains d then walk point c (s.past d t) (s :: ends) passed t else (s :: ends, passed)

def firstOf (k : Rest) : List State → Passed → Option State × Passed
  | [], passed => (none, passed)
  | s :: ss, passed =>
    match k s passed with
    | (some t, passed) => (some t, passed)
    | (none, passed) => firstOf k ss passed

/-- As `walk`, but `k` is tried in each state before the next character. -/
def lazyWalk (point : Nat) (c : CharClass) (k : Rest) (s : State) (passed : Passed) :
    Text → Option State × Passed
  | [] =>
    if passed.contains (point, s.place.offset) then (none, passed)
    else k s (passed.insert (point, s.place.offset))
  | d :: t =>
    if passed.contains (point, s.place.offset) then (none, passed)
    else match k s (passed.insert (point, s.place.offset)) with
      | (some u, passed) => (some u, passed)
      | (none, passed) =>
        if c.contains d then lazyWalk point c k (s.past d t) passed t else (none, passed)

def charTurns (point : Nat) (eager : Bool) (c : CharClass) (k : Rest) : Rest := fun s passed =>
  if eager then
    let (ends, passed) := walk point c s [] passed s.place.rest
    firstOf k ends passed
  else lazyWalk point c k s passed s.place.rest

/-- `count` copies, the last one first, of what `number` numbers from `n` on, in front of others;
and the next number. -/
def copiesOnto (number : Nat → (Rest → Rest) × Nat) (others : List (Rest → Rest)) :
    Nat → Nat → List (Rest → Rest) × Nat
  | 0, n => (others, n)
  | count + 1, n =>
    let (body, n) := number n
    copiesOnto number (body :: others) count n

def inTurn (bodies : List (Rest → Rest)) (k : Rest) : Rest :=
  bodies.foldl (fun rest body => body rest) k

/-- As many of them as can be, or as few as need be; the last one comes first in the list. -/
def upTo (eager : Bool) (bodies : List (Rest → Rest)) (k : Rest) : Rest :=
  bodies.foldl (fun rest body => turnOrEnd eager (body rest) k) k

/-- Any number of turns. When a turn may take nothing, it is some turns or none. -/
def anyTurns (bound : Nat) (eager : Bool) (r : Regex) (number : Nat → (Rest → Rest) × Nat)
    (n : Nat) : (Rest → Rest) × Nat :=
  match r with
  | char c => (charTurns n eager c, n + 1)
  | r =>
    if r.alwaysTakes then
      let (body, m) := number (n + 1)
      (fun k => starTurns n eager body k bound, m)
    else
      let (body, m) := number (n + 2)
      (fun k => upTo eager [fun rest => plusTurns n eager body rest bound] (once (n + 1) k), m)

def someTurns (bound : Nat) (eager : Bool) (r : Regex) (number : Nat → (Rest → Rest) × Nat)
    (n : Nat) : (Rest → Rest) × Nat :=
  match r with
  | char c => (fun k => one c (charTurns n eager c k), n + 1)
  | _ =>
    let (body, m) := number (n + 1)
    (fun k => plusTurns n eager body k bound, m)

def turns (bound : Nat) (eager : Bool) (k : Times) (r : Regex) (number : Nat → (Rest → Rest) × Nat)
    (n : Nat) : (Rest → Rest) × Nat :=
  match k with
  | ⟨0, none⟩ => anyTurns bound eager r number n
  | ⟨least + 1, none⟩ =>
    let (bodies, n) := copiesOnto number [] least n
    let (last, n) := someTurns bound eager r number n
    (fun k => inTurn bodies (last k), n)
  | ⟨least, some most⟩ =>
    let (bodies, n) := copiesOnto number [] least n
    if most ≤ least then (inTurn bodies, n)
    else
      let (others, m) := copiesOnto number [] (most - least) (n + 1)
      (fun k => inTurn bodies (upTo eager others (once n k)), m)

/-- How an expression is matched in front of a rest, with its points numbered from `n` on, and the
next number. -/
def matcher (bound : Nat) : Regex → Nat → (Rest → Rest) × Nat
  | empty, n => (fun k => k, n)
  | char c, n => (one c, n)
  | look l, n => (fun k s passed => if s.place.meets l then k s passed else (none, passed), n)
  | seq a b, n =>
    let (first, n) := matcher bound a n
    let (second, n) := matcher bound b n
    (fun k => first (second k), n)
  | alt a b, n =>
    let (left, n) := matcher bound a n
    let (right, n) := matcher bound b n
    (fun k => orElse (left (once n k)) (right (once n k)), n + 1)
  | repeated eager k r, n => turns bound eager k r (matcher bound r) n
  | group key r, n =>
    let (inner, m) := matcher bound r n
    (fun k s => inner (fun t => k (t.record key s.place)) s, m)

structure Hit where
  whole : Match
  groups : List (GroupKey × Match)
  deriving DecidableEq, Repr

def Hit.group? (h : Hit) (name : Text) : Option Match := h.groups.lookup (.named name)

def Hit.ofState (origin : Place) (s : State) : Hit :=
  ⟨Capture.toMatch ⟨origin, s.place.offset⟩, s.groups.map fun g => (g.1, g.2.toMatch)⟩

def searchFrom (whole : Rest) (offset : Nat) (before : Option Char) (passed : Passed) :
    Text → Option (Hit × Place)
  | [] =>
    match whole (.start ⟨offset, before, []⟩) passed with
    | (some s, _) => some (.ofState ⟨offset, before, []⟩ s, s.place)
    | (none, _) => none
  | c :: t =>
    match whole (.start ⟨offset, before, c :: t⟩) passed with
    | (some s, _) => some (.ofState ⟨offset, before, c :: t⟩ s, s.place)
    | (none, passed) => searchFrom whole (offset + c.utf8Size) (some c) passed t

def searchAt (r : Regex) (p : Place) : Option (Hit × Place) :=
  searchFrom ((matcher (p.rest.length + 2) r 0).1 fun s passed => (some s, passed)) p.offset p.before ∅
    p.rest

def search? (r : Regex) (t : Text) : Option Hit := (searchAt r (.start t)).map (·.1)

def isMatch (r : Regex) (t : Text) : Bool := (r.search? t).isSome

/-- The matches from left to right, each search starting where the match before it ended, or one
character further after an empty match. -/
def searchAllFrom (r : Regex) : Nat → Place → List Hit
  | 0, _ => []
  | bound + 1, p =>
    match searchAt r p with
    | none => []
    | some (h, q) =>
      if h.whole.span.isEmpty then
        match q.rest with
        | [] => [h]
        | c :: t => h :: searchAllFrom r bound (q.past c t)
      else h :: searchAllFrom r bound q

def searchAll (r : Regex) (t : Text) : List Hit := searchAllFrom r (t.length + 1) (Place.start t)

end Unscramble.Regex
