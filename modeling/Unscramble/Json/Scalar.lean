import Unscramble.Json.Problem
import Unscramble.Text.Number

/-! The parts of a JSON text that hold no others: strings, numbers and the three words. A string
whose content is wanted may not hold half of a surrogate pair; one that is passed over may. -/
namespace Unscramble.Json

def isBlank (c : Char) : Bool := c == ' ' || c == '\n' || c == '\t' || c == '\r'

def skipBlanks (t : Text) : Text := t.dropWhile isBlank

def expect : Text → Text → Except Problem Text
  | [], t => .ok t
  | _ :: _, [] => .error .endOfText
  | w :: ws, c :: t => if c = w then expect ws t else .error .notJson

/-- Four hexadecimal digits. Four octets must be left at least. -/
def readUnit (t : Text) : Except Problem (Nat × Text) :=
  match t with
  | a :: b :: c :: d :: rest =>
    match Number.hexDigit? a, Number.hexDigit? b, Number.hexDigit? c, Number.hexDigit? d with
    | some a, some b, some c, some d => .ok (((a * 16 + b) * 16 + c) * 16 + d, rest)
    | _, _, _, _ => .error .notJson
  | t => .error (if t.byteLength < 4 then .endOfText else .notJson)

def isHighSurrogate (n : Nat) : Bool := 0xD800 ≤ n && n ≤ 0xDBFF
def isLowSurrogate (n : Nat) : Bool := 0xDC00 ≤ n && n ≤ 0xDFFF

def readLow (t : Text) : Except Problem (Nat × Text) :=
  match t with
  | [] | ['\\'] => .error .endOfText
  | '\\' :: 'u' :: rest => do
    let (n, rest) ← readUnit rest
    if isLowSurrogate n then return (n, rest) else throw .notJson
  | _ => .error .notJson

def escaped? (c : Char) : Option Char :=
  if c = '"' || c = '\\' || c = '/' then some c
  else if c = 'b' then some '\x08'
  else if c = 'f' then some '\x0c'
  else if c = 'n' then some '\n'
  else if c = 'r' then some '\r'
  else if c = 't' then some '\t'
  else none

def readEscape (t : Text) : Except Problem (Char × Text) :=
  match t with
  | [] => .error .endOfText
  | 'u' :: rest => do
    let (n, rest) ← readUnit rest
    if isLowSurrogate n then throw .notJson
    if isHighSurrogate n then
      let (m, rest) ← readLow rest
      return (Char.ofNat (0x10000 + (n - 0xD800) * 1024 + (m - 0xDC00)), rest)
    return (Char.ofNat n, rest)
  | c :: rest => match escaped? c with
    | some d => .ok (d, rest)
    | none => .error .notJson

/-- The content of a string from behind its opening quote; `bound` is at least its length. -/
def readStringWithin : Nat → Text → Except Problem (Text × Text)
  | 0, _ => .error .endOfText
  | _ + 1, [] => .error .endOfText
  | bound + 1, c :: t =>
    if c = '"' then .ok ([], t)
    else if c.toNat < 0x20 then .error .notJson
    else do
      let (d, t) ← if c = '\\' then readEscape t else pure (c, t)
      let (s, t) ← readStringWithin bound t
      return (d :: s, t)

def readString (t : Text) : Except Problem (Text × Text) := readStringWithin t.length t

def skipStringWithin : Nat → Text → Except Problem Text
  | 0, _ => .error .endOfText
  | _ + 1, [] => .error .endOfText
  | bound + 1, c :: t =>
    if c = '"' then .ok t
    else if c.toNat < 0x20 then .error .notJson
    else if c = '\\' then
      match t with
      | [] => .error .endOfText
      | 'u' :: t => do
        let (_, t) ← readUnit t
        skipStringWithin bound t
      | d :: t => if (escaped? d).isSome then skipStringWithin bound t else .error .notJson
    else skipStringWithin bound t

def skipString (t : Text) : Except Problem Text := skipStringWithin t.length t

/-- A number is an integer of 64 bits, with or without sign, or it is any other number: one with
a point or an exponent, minus zero, or a larger one. -/
inductive Numeral where
  | integer (v : Int)
  | other
  deriving DecidableEq, Repr

/-- The nearest number of 53 binary digits, ties going to the even one. -/
def roundBinary (n : Nat) : Nat :=
  let unit := Nat.pow 2 (n.log2 - 52)
  let q := n / unit
  let r := n % unit
  if unit < 2 * r || (2 * r = unit && q % 2 = 1 && 1 < unit) then (q + 1) * unit else q * unit

def isFinite (n : Nat) (exponent : Int) : Bool :=
  n == 0 || exponent < 0 ||
    (exponent ≤ 308 &&
      roundBinary (roundBinary n * roundBinary (Nat.pow 10 exponent.toNat)) < Nat.pow 2 1024)

/-- Digits taken into a number of 64 bits while they fit, and how many are left. -/
def takeDigits (n : Nat) : Text → Nat × Nat
  | [] => (n, 0)
  | c :: t =>
    let m := n * 10 + (c.toNat - '0'.toNat)
    if m ≤ Number.maxWord then takeDigits m t else (n, t.length + 1)

structure NumeralParts where
  negative : Bool
  whole : Text
  fraction : Text
  exponent : Option Int

def digitsAndRest (t : Text) : Text × Text := (t.takeWhile Char.isDigit, t.dropWhile Char.isDigit)

def readDigits (t : Text) : Except Problem (Text × Text) :=
  match digitsAndRest t with
  | ([], []) => .error .endOfText
  | ([], _ :: _) => .error .notJson
  | found => .ok found

def naturalOf (digits : Text) : Nat := digits.foldl (fun n c => n * 10 + (c.toNat - '0'.toNat)) 0

def readWhole (t : Text) : Except Problem (Text × Text) := do
  match ← readDigits t with
  | ('0' :: _ :: _, _) => throw .notJson
  | found => return found

def readFraction (t : Text) : Except Problem (Text × Text) :=
  match t with
  | '.' :: rest => readDigits rest
  | t => .ok ([], t)

def readExponent (t : Text) : Except Problem (Option Int × Text) :=
  match t with
  | 'e' :: rest | 'E' :: rest => do
    let (negative, rest) := match rest with
      | '-' :: rest => (true, rest)
      | '+' :: rest => (false, rest)
      | rest => (false, rest)
    let (digits, rest) ← readDigits rest
    return (some (if negative then -(naturalOf digits : Int) else naturalOf digits), rest)
  | t => .ok (none, t)

def readParts (t : Text) : Except Problem (NumeralParts × Text) := do
  let (negative, t) := match t with
    | '-' :: t => (true, t)
    | t => (false, t)
  let (whole, t) ← readWhole t
  let (fraction, t) ← readFraction t
  let (exponent, t) ← readExponent t
  return (⟨negative, whole, fraction, exponent⟩, t)

def NumeralParts.numeral (p : NumeralParts) : Except Problem Numeral :=
  let (n, left) := takeDigits 0 p.whole
  if p.fraction.isEmpty && p.exponent.isNone && left = 0 then
    if !p.negative then .ok (.integer n)
    else if n = 0 || Number.maxSigned + 1 < n then .ok .other
    else .ok (.integer (-(n : Int)))
  else
    let (m, unused) := takeDigits n p.fraction
    let exponent := p.exponent.getD 0 + left - (p.fraction.length - unused : Nat)
    if isFinite m exponent then .ok .other else .error .notJson

def readNumeral (t : Text) : Except Problem (Numeral × Text) := do
  let (p, t) ← readParts t
  return (← p.numeral, t)

/-- Passes over a number. A text that ends inside one is no JSON. -/
def skipNumeral (t : Text) : Except Problem Text :=
  match readParts t with
  | .ok (_, t) => .ok t
  | .error _ => .error .notJson

def startsNumeral (c : Char) : Bool := c == '-' || c.isDigit

end Unscramble.Json
