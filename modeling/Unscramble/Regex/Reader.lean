import Unscramble.Regex.Piece
import Unscramble.Text.Letter

/-! Reading expressions in their written form: characters, escapes, classes, `.`, `^`, `$`,
repetitions with lazy forms, groups with and without a name, and choices. Look-around, flags and
references to earlier groups are no expressions here, and two groups may not share a name. -/
namespace Unscramble.Regex

def groupName? (t : Text) : Option (Text × Text) := do
  let (name, rest) ← Text.splitOnce? '>' t
  match name with
  | [] => none
  | c :: cs =>
    if (c == '_' || Text.isLetter c) &&
        cs.all fun d => d == '_' || d == '.' || d == '[' || d == ']' || Text.isLetterOrNumber d
    then return (name, rest) else none

def count? (t : Text) : Option (Nat × Text) :=
  let t := Text.trimStart t
  match t.takeWhile Char.isDigit with
  | [] => none
  | ds =>
    (Number.read Number.maxHalfWord ds).toOption.map (·, Text.trimStart (t.dropWhile Char.isDigit))

def counts? (t : Text) : Option (Times × Text) := do
  let (m, t) ← count? t
  match t with
  | '\x7d' :: t => return (⟨m, some m⟩, t)
  | ',' :: '\x7d' :: t => return (⟨m, none⟩, t)
  | ',' :: t =>
    let (n, t) ← count? t
    match t with
    | '\x7d' :: t => if m ≤ n then return (⟨m, some n⟩, t) else none
    | _ => none
  | _ => none

/-- A repetition sign, if the text starts with one. The outer `none` is a malformed one. -/
def times? : Text → Option (Option (Times × Text))
  | '*' :: t => some (some (⟨0, none⟩, t))
  | '+' :: t => some (some (⟨1, none⟩, t))
  | '?' :: t => some (some (⟨0, some 1⟩, t))
  | '\x7b' :: t => (counts? t).map some
  | _ => some none

def repeats? : Nat → Piece → Text → Option (Piece × Text)
  | 0, _, _ => none
  | bound + 1, p, t => do
    match ← times? t with
    | none => return (p, t)
    | some (k, '?' :: t) => repeats? bound (p.repeated false k) t
    | some (k, t) => repeats? bound (p.repeated true k) t

mutual

def readChoice : Nat → Text → Option (List Piece × Text)
  | 0, _ => none
  | bound + 1, t => do
    let (ps, t) ← readSequence bound t
    match t with
    | '|' :: t =>
      let (qs, t) ← readChoice bound t
      return (.sequence ps :: qs, t)
    | t => return ([.sequence ps], t)

def readSequence : Nat → Text → Option (List Piece × Text)
  | 0, _ => none
  | _ + 1, [] => some ([], [])
  | bound + 1, c :: t =>
    if c = '|' || c = ')' then some ([], c :: t)
    else do
      let (p, t) ← readAtom bound c t
      let (p, t) ← repeats? bound p t
      let (ps, t) ← readSequence bound t
      return (p :: ps, t)

def readAtom : Nat → Char → Text → Option (Piece × Text)
  | 0, _, _ => none
  | bound + 1, c, t =>
    if c = '(' then
      match t with
      | '?' :: ':' :: t => readGroup bound none t
      | '?' :: 'P' :: '<' :: t | '?' :: '<' :: t => do
        let (name, t) ← groupName? t
        readGroup bound (some (.named name)) t
      | '?' :: _ => none
      | t => readGroup bound (some (.numbered t.length)) t
    else if c = '[' then (Bracket.read? t).map fun (b, t) => (.ofBracket b, t)
    else if c = '\\' then (Escape.read? t).map fun (e, t) => (.ofEscape e, t)
    else if c = '.' then some (.one (char (.ofRanges CharClass.inLine.ranges)), t)
    else if c = '^' then some (.one (look .textStart), t)
    else if c = '$' then some (.one (look .textEnd), t)
    else if c = '*' || c = '+' || c = '?' || c = '\x7b' then none
    else some (.ofChar c, t)

def readGroup : Nat → Option GroupKey → Text → Option (Piece × Text)
  | 0, _, _ => none
  | bound + 1, key, t => do
    match ← readChoice bound t with
    | (ps, ')' :: t) => return ((Piece.choice ps).grouped key, t)
    | _ => none

end

/-- The expression that a text writes, if it writes one. -/
def read? (t : Text) : Option Regex := do
  match ← readChoice (4 * t.length + 4) t with
  | (ps, []) => (Piece.choice ps).toRegex?
  | _ => none

end Unscramble.Regex
