import Unscramble.Regex.Escape

/-! Bracketed classes: characters, ranges, escapes, classes inside, named classes such as
`[:alpha:]`, and `&&`, `--`, `~~` between two classes, which are taken from left to right. -/
namespace Unscramble.Regex

structure Bracket where
  chars : Text.Ranges
  depth : Nat
  deriving DecidableEq, Repr

namespace Bracket

def ofChar (c : Char) : Bracket := ⟨.ofChars [(c, c)], 0⟩

def union : List Bracket → Bracket
  | [] => ⟨[], 0⟩
  | [b] => b
  | b :: bs =>
    ⟨.normal ((b :: bs).flatMap (·.chars)), 1 + (bs.map (·.depth)).foldl max b.depth⟩

def combine (f : Text.Ranges → Text.Ranges → Text.Ranges) (a b : Bracket) : Bracket :=
  ⟨f a.chars b.chars, 1 + max a.depth b.depth⟩

def enclosed (negated : Bool) (b : Bracket) : Bracket :=
  ⟨if negated then b.chars.complement else b.chars, 1 + b.depth⟩

def ofName? (name : Text) : Option Text.Ranges :=
  (match String.ofList name with
  | "alnum" => some [('0', '9'), ('A', 'Z'), ('a', 'z')]
  | "alpha" => some [('A', 'Z'), ('a', 'z')]
  | "ascii" => some [('\x00', '\x7f')]
  | "blank" => some [('\t', '\t'), (' ', ' ')]
  | "cntrl" => some [('\x00', '\x1f'), ('\x7f', '\x7f')]
  | "digit" => some [('0', '9')]
  | "graph" => some [('!', '~')]
  | "lower" => some [('a', 'z')]
  | "print" => some [(' ', '~')]
  | "punct" => some [('!', '/'), (':', '@'), ('[', Char.ofNat 0x60), ('\x7b', '~')]
  | "space" => some [('\t', '\r'), (' ', ' ')]
  | "upper" => some [('A', 'Z')]
  | "word" => some [('0', '9'), ('A', 'Z'), ('_', '_'), ('a', 'z')]
  | "xdigit" => some [('0', '9'), ('A', 'F'), ('a', 'f')]
  | _ => none : Option (List (Char × Char))).map .ofChars

/-- A named class from behind its `[:`. Where none is written, the bracket opens a class inside. -/
def named? (t : Text) : Option (Text.Ranges × Text) := do
  let (negated, t) := match t with
    | '^' :: t => (true, t)
    | t => (false, t)
  match ← Text.splitOnce? ':' t with
  | (name, ']' :: t) =>
    let k ← ofName? name
    return (if negated then k.complement else k, t)
  | _ => none

def item? : Text → Option (Escape × Text)
  | '\\' :: t => Escape.read? t
  | c :: t => some (.char c, t)
  | [] => none

/-- A range, a single character or an escape. A dash in front of `]` or of another dash makes no
range. -/
def range? (t : Text) : Option (Text.Ranges × Text) := do
  let (lo, t) ← item? t
  match t with
  | '-' :: c :: rest =>
    if c = ']' || c = '-' then return (← alone? lo, t)
    else
      match lo, ← item? (c :: rest) with
      | .char lo, (.char hi, t) => if lo ≤ hi then return (.ofChars [(lo, hi)], t) else none
      | _, _ => none
  | t => return (← alone? lo, t)
where
  alone? : Escape → Option Text.Ranges
    | .char c => some (.ofChars [(c, c)])
    | .oneOf k => some k
    | .look _ => none

/-- The start of a class from behind its opening bracket: whether it is negated, and the dashes
or the `]` that stand for themselves there. -/
def opening (t : Text) : Bool × List Bracket × Text :=
  let (negated, t) := match t with
    | '^' :: t => (true, t)
    | t => (false, t)
  match t.takeWhile (· == '-'), t.dropWhile (· == '-') with
  | [], ']' :: t => (negated, [.ofChar ']'], t)
  | dashes, t => (negated, dashes.map .ofChar, t)

def operator? : Text → Option ((Text.Ranges → Text.Ranges → Text.Ranges) × Text)
  | '&' :: '&' :: t => some (.intersection, t)
  | '-' :: '-' :: t => some (.difference, t)
  | '~' :: '~' :: t => some (.symmetricDifference, t)
  | _ => none

mutual

def readFrom : Nat → Text → Option (Bracket × Text)
  | 0, _ => none
  | bound + 1, t => do
    let (negated, items, t) := opening t
    let (b, t) ← readUnion bound items t
    let (b, t) ← readOperations bound b t
    return (b.enclosed negated, t)

def readUnion : Nat → List Bracket → Text → Option (Bracket × Text)
  | 0, _, _ => none
  | _ + 1, _, [] => none
  | bound + 1, items, c :: t =>
    if c = ']' || (operator? (c :: t)).isSome then some (union items, c :: t)
    else if c = '[' then do
      match t with
      | ':' :: rest =>
        match named? rest with
        | some (k, t) => readUnion bound (items ++ [⟨k, 0⟩]) t
        | none =>
          let (b, t) ← readFrom bound t
          readUnion bound (items ++ [b]) t
      | t =>
        let (b, t) ← readFrom bound t
        readUnion bound (items ++ [b]) t
    else do
      let (k, t) ← range? (c :: t)
      readUnion bound (items ++ [⟨k, 0⟩]) t

def readOperations : Nat → Bracket → Text → Option (Bracket × Text)
  | 0, _, _ => none
  | bound + 1, b, t =>
    match operator? t with
    | some (f, t) => do
      let (other, t) ← readUnion bound [] t
      readOperations bound (combine f b other) t
    | none =>
      match t with
      | ']' :: t => some (b, t)
      | _ => none

end

def read? (t : Text) : Option (Bracket × Text) := readFrom (3 * t.length + 3) t

end Bracket
end Unscramble.Regex
