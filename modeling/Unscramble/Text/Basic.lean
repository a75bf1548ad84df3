/-! Text is a list of characters. Places in a text are byte offsets into its UTF-8 form; an offset
inside a character or past the end is no place, and cutting there gives nothing. -/
namespace Unscramble

abbrev Text := List Char

/-- A half-open range of byte offsets. -/
structure Span where
  start : Nat
  stop : Nat
  deriving DecidableEq, Repr

def Span.length (s : Span) : Nat := s.stop - s.start
def Span.isEmpty (s : Span) : Bool := s.start == s.stop

structure Match where
  text : Text
  span : Span
  deriving DecidableEq, Repr

namespace Text

def byteLength : Text → Nat
  | [] => 0
  | c :: t => c.utf8Size + byteLength t

def dropBytes? : Nat → Text → Option Text
  | 0, t => some t
  | _ + 1, [] => none
  | n + 1, c :: t => if c.utf8Size ≤ n + 1 then dropBytes? (n + 1 - c.utf8Size) t else none

def takeBytes? : Nat → Text → Option Text
  | 0, _ => some []
  | _ + 1, [] => none
  | n + 1, c :: t =>
    if c.utf8Size ≤ n + 1 then (takeBytes? (n + 1 - c.utf8Size) t).map (c :: ·) else none

/-- The part a span covers, if it lies within the text and cuts no character. -/
def slice? (t : Text) (s : Span) : Option Text :=
  if s.start ≤ s.stop then (dropBytes? s.start t).bind (takeBytes? (s.stop - s.start)) else none

def match? (t : Text) (s : Span) : Option Match :=
  (slice? t s).map (⟨·, s⟩)

def splitOnce? (sep : Char) : Text → Option (Text × Text)
  | [] => none
  | c :: t => if c = sep then some ([], t) else (splitOnce? sep t).map fun (a, b) => (c :: a, b)

/-- The pieces between the separators; one more than there are separators. -/
def pieces (sep : Char) : Text → List Text
  | [] => [[]]
  | c :: t =>
    if c = sep then [] :: pieces sep t
    else match pieces sep t with
      | [] => [[c]]
      | p :: ps => (c :: p) :: ps

def offsetOf? (needle : Text) : Text → Option Nat
  | [] => if needle.isEmpty then some 0 else none
  | c :: t => if needle.isPrefixOf (c :: t) then some 0 else (offsetOf? needle t).map (c.utf8Size + ·)

def dropEndWhile (p : Char → Bool) (t : Text) : Text := (t.reverse.dropWhile p).reverse

def trimBy (p : Char → Bool) (t : Text) : Text := dropEndWhile p (t.dropWhile p)

def stripStart (t : Text) (c : Char) : Text :=
  match t with
  | d :: r => if d = c then r else t
  | [] => []

def stripEnd (t : Text) (c : Char) : Text := (stripStart t.reverse c).reverse

end Text
end Unscramble
