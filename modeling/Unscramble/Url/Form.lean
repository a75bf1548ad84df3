import Unscramble.Url.Percent

/-! Form encoding of name-value pairs: `name=value` joined by `&`, with `+` for a space and
percent-encoding for all but letters, digits and `*-._`. -/
namespace Unscramble.Form
open Utf8

abbrev Pairs := List (Text × Text)

def isPlain (b : Nat) : Bool :=
  (0x30 ≤ b && b ≤ 0x39) || (0x41 ≤ b && b ≤ 0x5A) || (0x61 ≤ b && b ≤ 0x7A) ||
    b == 0x2A || b == 0x2D || b == 0x2E || b == 0x5F

def encodeOctet (b : Nat) : Text :=
  if isPlain b then [Char.ofNat b] else if b = 0x20 then ['+'] else Percent.encodeOctet b

def encode (t : Text) : Text := (Utf8.encode t).flatMap encodeOctet

def decode (t : Text) : Text :=
  Utf8.decode (Percent.decode ((Utf8.encode t).map fun b => if b = 0x2B then 0x20 else b))

/-- A piece without `=` is a name with an empty value. -/
def pairOf (piece : Text) : Text × Text :=
  match Text.splitOnce? '=' piece with
  | none => (decode piece, [])
  | some (name, value) => (decode name, decode value)

def parse (t : Text) : Pairs := ((Text.pieces '&' t).filter fun p => !p.isEmpty).map pairOf

def renderPair (p : Text × Text) : Text := encode p.1 ++ '=' :: encode p.2

def render (ps : Pairs) : Text := ['&'].intercalate (ps.map renderPair)

def first? (ps : Pairs) (name : Text) : Option Text := ps.lookup name

def last? (ps : Pairs) (name : Text) : Option Text := ps.reverse.lookup name

def set (name value : Text) : Pairs → Pairs
  | [] => [(name, value)]
  | (n, v) :: ps => if n = name then (n, value) :: ps else (n, v) :: set name value ps

end Unscramble.Form
