import Unscramble.Regex.Basic
import Unscramble.Text.Number

/-! Escapes: what a backslash and the characters behind it stand for. -/
namespace Unscramble.Regex

inductive Escape where
  | char (c : Char)
  | oneOf (k : Text.Ranges)
  | look (l : Look)
  deriving DecidableEq, Repr

namespace Escape

def class? (c : Char) : Option Text.Ranges :=
  if c = 'd' then some Text.digitSet
  else if c = 'D' then some Text.digitSet.complement
  else if c = 's' then some Text.blankSet
  else if c = 'S' then some Text.blankSet.complement
  else if c = 'w' then some Text.wordSet
  else if c = 'W' then some Text.wordSet.complement
  else none

/-- A control character, or a character that is neither a letter nor a digit. -/
def char? (c : Char) : Option Char :=
  if c = 'n' then some '\n'
  else if c = 't' then some '\t'
  else if c = 'r' then some '\r'
  else if c = 'f' then some '\x0c'
  else if c = 'v' then some '\x0b'
  else if c = 'a' then some '\x07'
  else if c.toNat < 128 && !c.isAlphanum && c != '<' && c != '>' then some c
  else none

def look? (c : Char) : Option Look :=
  if c = 'A' then some .textStart
  else if c = 'z' then some .textEnd
  else if c = 'B' then some (.wordBoundary false)
  else if c = '<' then some .wordStart
  else if c = '>' then some .wordEnd
  else none

def digitCount? (c : Char) : Option Nat :=
  if c = 'x' then some 2 else if c = 'u' then some 4 else if c = 'U' then some 8 else none

def ofDigits? (ds : Text) : Option Char := do
  if ds.isEmpty then none
  let n := (← ds.mapM Number.hexDigit?).foldl (fun n d => n * 16 + d) 0
  if n.isValidChar then return Char.ofNat n else none

def numbered? (count : Nat) (t : Text) : Option (Char × Text) :=
  match t with
  | '\x7b' :: t => do
    let (ds, t) ← Text.splitOnce? '\x7d' t
    return (← ofDigits? ds, t)
  | t =>
    if count ≤ t.length then (ofDigits? (t.take count)).map fun c => (c, t.drop count) else none

def boundaryNamed? (name : Text) : Option Look :=
  if name = "start".toList then some .wordStart
  else if name = "end".toList then some .wordEnd
  else if name = "start-half".toList then some (.flanks (some false) none)
  else if name = "end-half".toList then some (.flanks none (some false))
  else none

/-- A word boundary. A brace behind it with a letter or a dash names one kind of boundary; with
anything else it is a count. -/
def boundary? (t : Text) : Option (Look × Text) :=
  match t with
  | '\x7b' :: c :: t =>
    if c.isAlpha || c == '-' then do
      let (name, t) ← Text.splitOnce? '\x7d' (c :: t)
      return (← boundaryNamed? name, t)
    else some (.wordBoundary true, '\x7b' :: c :: t)
  | t => some (.wordBoundary true, t)

def read? : Text → Option (Escape × Text)
  | [] => none
  | c :: t =>
    match class? c, digitCount? c with
    | some k, _ => some (oneOf k, t)
    | none, some n => (numbered? n t).map fun (d, t) => (char d, t)
    | none, none =>
      if c = 'b' then (boundary? t).map fun (l, t) => (look l, t)
      else match look? c with
        | some l => some (look l, t)
        | none => (char? c).map fun d => (char d, t)

end Escape
end Unscramble.Regex
