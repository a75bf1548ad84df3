import Unscramble.Text.Utf8

/-! Percent-encoding: an octet as `%` and two hexadecimal digits. -/
namespace Unscramble.Percent
open Utf8

def hexDigit (n : Nat) : Char := Char.ofNat (if n < 10 then 0x30 + n else 0x37 + n)

def hexValue? (b : Nat) : Option Nat :=
  if 0x30 ≤ b ∧ b ≤ 0x39 then some (b - 0x30)
  else if 0x41 ≤ b ∧ b ≤ 0x46 then some (b - 0x37)
  else if 0x61 ≤ b ∧ b ≤ 0x66 then some (b - 0x57)
  else none

def encodeOctet (b : Nat) : Text := ['%', hexDigit (b / 16), hexDigit (b % 16)]

/-- Encodes the characters for which `escapes` holds, and every character beyond ASCII. -/
def encode (escapes : Char → Bool) (t : Text) : Text :=
  t.flatMap fun c =>
    if c.toNat < 128 && !escapes c then [c] else (Utf8.encodeChar c).flatMap encodeOctet

/-- A `%` without two hexadecimal digits stays. -/
def decode : Octets → Octets
  | [] => []
  | a :: t =>
    if a = 0x25 then
      match t with
      | h :: l :: t' =>
        match hexValue? h, hexValue? l with
        | some x, some y => (x * 16 + y) :: decode t'
        | _, _ => a :: decode (h :: l :: t')
      | t => a :: t
    else a :: decode t

end Unscramble.Percent
