import Unscramble.Text.Number
import Unscramble.Url.Fault
import Unscramble.Url.Label
import Unscramble.Url.Percent

/-! Hosts of URLs: names, IPv4 and IPv6 addresses in their canonical form, and for schemes without
rules of their own any text. -/
namespace Unscramble.Url

/-- An IPv6 address has eight pieces of 16 bits. -/
inductive Host where
  | name (t : Text)
  | ipv4 (address : Nat)
  | ipv6 (pieces : List Nat)
  deriving DecidableEq, Repr

def isControl (c : Char) : Bool := c.toNat < 0x20 || c.toNat == 0x7F

def isHexDigit (c : Char) : Bool :=
  c.isDigit || (('a' ≤ c && c ≤ 'f') || ('A' ≤ c && c ≤ 'F'))

def hexDigitValue (c : Char) : Nat := (Percent.hexValue? c.toNat).getD 0

def digitsValue (base : Nat) (t : Text) : Nat := t.foldl (fun n c => n * base + hexDigitValue c) 0

/-- A part of an address: decimal, octal behind `0`, or hexadecimal behind `0x`. -/
def ipv4Part? (t : Text) : Option Nat :=
  match t with
  | [] => none
  | '0' :: 'x' :: r | '0' :: 'X' :: r => if r.all isHexDigit then some (digitsValue 16 r) else none
  | '0' :: c :: r =>
    if (c :: r).all fun d => '0' ≤ d && d ≤ '7' then some (digitsValue 8 (c :: r)) else none
  | t => if t.all Char.isDigit then some (digitsValue 10 t) else none

/-- The parts between the points; an empty one at the end does not count. -/
def ipv4Parts (t : Text) : List Text :=
  let ps := Text.pieces '.' t
  if 2 ≤ ps.length && ps.getLast? == some [] then ps.dropLast else ps

/-- A name whose last part is a number is an address or wrong. -/
def endsInNumber (t : Text) : Bool :=
  match (ipv4Parts t).getLast? with
  | none => false
  | some p => (!p.isEmpty && p.all Char.isDigit) || (ipv4Part? p).isSome

/-- Parts but the last are octets; the last one fills what they leave. -/
def ipv4OfParts? : List Nat → Nat → Option Nat
  | [], _ => none
  | [n], left => if n < 256 ^ left then some n else none
  | n :: ns, left =>
    if n < 256 then (ipv4OfParts? ns (left - 1)).map (n * 256 ^ (left - 1) + ·) else none

def ipv4? (t : Text) : Option Nat := do
  let ps ← (ipv4Parts t).mapM ipv4Part?
  if ps.length ≤ 4 then ipv4OfParts? ps 4 else none

def plainOctet? (t : Text) : Option Nat :=
  match t with
  | ['0'] => some 0
  | c :: _ =>
    if t.all Char.isDigit && c != '0' && digitsValue 10 t < 256 then some (digitsValue 10 t) else none
  | [] => none

def embeddedIpv4? (t : Text) : Option (List Nat) := do
  match ← (Text.pieces '.' t).mapM plainOctet? with
  | [a, b, c, d] => return [a * 256 + b, c * 256 + d]
  | _ => none

/-- The pieces read so far and, if `::` has been met, how many stand up to it. -/
structure Ipv6Reading where
  pieces : List Nat
  gap : Option Nat

/-- Fills the gap with zeros; `::` stands for one piece at least. -/
def Ipv6Reading.finish (r : Ipv6Reading) : Option (List Nat) :=
  match r.gap with
  | none => if r.pieces.length = 8 then some r.pieces else none
  | some k =>
    if r.pieces.length ≤ 8 then
      some (r.pieces.take k ++ List.replicate (8 - r.pieces.length) 0 ++ r.pieces.drop k)
    else none

def ipv6Pieces? : Nat → Ipv6Reading → Text → Option (List Nat)
  | 0, _, _ => none
  | _ + 1, r, [] => r.finish
  | bound + 1, r, c :: t =>
    if r.pieces.length = 8 then none
    else if c = ':' then
      if r.gap.isSome then none
      else ipv6Pieces? bound ⟨r.pieces ++ [0], some (r.pieces.length + 1)⟩ t
    else
      let digits := ((c :: t).takeWhile isHexDigit).take 4
      match (c :: t).drop digits.length with
      | [] => ipv6Pieces? bound ⟨r.pieces ++ [digitsValue 16 digits], r.gap⟩ []
      | d :: rest =>
        if d = '.' then
          if digits.isEmpty || 6 < r.pieces.length then none
          else do
            let ps ← embeddedIpv4? (c :: t)
            Ipv6Reading.finish ⟨r.pieces ++ ps, r.gap⟩
        else if d = ':' && !rest.isEmpty then
          ipv6Pieces? bound ⟨r.pieces ++ [digitsValue 16 digits], r.gap⟩ rest
        else none

def ipv6? (t : Text) : Option (List Nat) :=
  match t with
  | ':' :: ':' :: rest => ipv6Pieces? (rest.length + 1) ⟨[0], some 1⟩ rest
  | ':' :: _ => none
  | t => ipv6Pieces? (t.length + 1) ⟨[], none⟩ t

def zeroRun (ps : List Nat) : Nat := (ps.takeWhile (· == 0)).length

/-- The longest run of zeros, the first of several: its place and length. -/
def longestZeroRun : List Nat → Nat × Nat
  | [] => (0, 0)
  | p :: ps =>
    let (k, n) := longestZeroRun ps
    if n ≤ zeroRun (p :: ps) then (0, zeroRun (p :: ps)) else (k + 1, n)

def renderIpv6Pieces (ps : List Nat) : Text := [':'].intercalate (ps.map (Nat.toDigits 16))

def renderIpv6 (ps : List Nat) : Text :=
  let (k, n) := longestZeroRun ps
  if 2 ≤ n then renderIpv6Pieces (ps.take k) ++ [':', ':'] ++ renderIpv6Pieces (ps.drop (k + n))
  else renderIpv6Pieces ps

def renderIpv4 (n : Nat) : Text :=
  ['.'].intercalate
    ([n / 16777216, n / 65536 % 256, n / 256 % 256, n % 256].map Number.render)

def Host.render : Host → Text
  | name t => t
  | ipv4 n => renderIpv4 n
  | ipv6 ps => '[' :: renderIpv6 ps ++ [']']

def isForbiddenInHost (c : Char) : Bool :=
  c == '\x00' || c == '\t' || c == '\n' || c == '\r' ||
    " #/:<>?@[\\]^|".toList.contains c

def isAscii (t : Text) : Bool := t.all (·.toNat < 128)

def isForbiddenInName (c : Char) : Bool := isForbiddenInHost c || isControl c || c == '%'

def bracketed (t : Text) : Except Fault Host :=
  if t.getLast? = some ']' then
    match ipv6? t.dropLast with
    | none => .error .invalidIpv6
    | some ps => .ok (.ipv6 ps)
  else .error .invalidIpv6

/-- The ASCII form of a name, given how names beyond ASCII are mapped to it. -/
def nameOf? (toAscii : Text → Option Text) (t : Text) : Option Text :=
  let inAscii := if isAscii t then some t else toAscii t
  (inAscii.map (·.map Char.toLower)).filter fun name =>
    isAscii name && !name.any isForbiddenInName && Label.areName (Text.pieces '.' name)

def Host.parse (toAscii : Text → Option Text) (t : Text) : Except Fault Host :=
  match t with
  | '[' :: r => bracketed r
  | t =>
    match nameOf? toAscii (Utf8.decode (Percent.decode (Utf8.encode t))) with
    | none => .error .invalidDomain
    | some t =>
      if t.isEmpty then .error .emptyHost
      else if endsInNumber t then
        match ipv4? t with
        | none => .error .invalidIpv4
        | some n => .ok (.ipv4 n)
      else .ok (.name t)

/-- The host of any other scheme, kept but for its control characters. -/
def Host.parseOpaque (t : Text) : Except Fault Host :=
  match t with
  | '[' :: r => bracketed r
  | t =>
    if t.any isForbiddenInHost then .error .invalidHostCharacter
    else .ok (.name (Percent.encode isControl t))

end Unscramble.Url
