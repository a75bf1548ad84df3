import Unscramble.Text.Basic

/-! The UTF-8 form of a text, and the text of any octets: every maximal piece that belongs to no
character is read as U+FFFD. -/
namespace Unscramble.Utf8

abbrev Octets := List Nat

def encodeChar (c : Char) : Octets :=
  let n := c.toNat
  if n < 0x80 then [n]
  else if n < 0x800 then [0xC0 + n / 64, 0x80 + n % 64]
  else if n < 0x10000 then [0xE0 + n / 4096, 0x80 + n / 64 % 64, 0x80 + n % 64]
  else [0xF0 + n / 262144, 0x80 + n / 4096 % 64, 0x80 + n / 64 % 64, 0x80 + n % 64]

def encode (t : Text) : Octets := t.flatMap encodeChar

def replacement : Char := '\uFFFD'

def isTail (b : Nat) : Bool := 0x80 ≤ b && b ≤ 0xBF

def isSecondOfThree (a b : Nat) : Bool :=
  if a = 0xE0 then 0xA0 ≤ b && b ≤ 0xBF
  else if a = 0xED then 0x80 ≤ b && b ≤ 0x9F
  else isTail b

def isSecondOfFour (a b : Nat) : Bool :=
  if a = 0xF0 then 0x90 ≤ b && b ≤ 0xBF
  else if a = 0xF4 then 0x80 ≤ b && b ≤ 0x8F
  else isTail b

def decode : Octets → Text
  | [] => []
  | a :: t =>
    if a < 0x80 then Char.ofNat a :: decode t
    else if 0xC2 ≤ a ∧ a ≤ 0xDF then
      match t with
      | [] => [replacement]
      | b :: t' =>
        if isTail b then Char.ofNat ((a - 0xC0) * 64 + (b - 0x80)) :: decode t'
        else replacement :: decode (b :: t')
    else if 0xE0 ≤ a ∧ a ≤ 0xEF then
      match t with
      | [] => [replacement]
      | b :: t' =>
        if isSecondOfThree a b then
          match t' with
          | [] => [replacement]
          | c :: t'' =>
            if isTail c then
              Char.ofNat ((a - 0xE0) * 4096 + (b - 0x80) * 64 + (c - 0x80)) :: decode t''
            else replacement :: decode (c :: t'')
        else replacement :: decode (b :: t')
    else if 0xF0 ≤ a ∧ a ≤ 0xF4 then
      match t with
      | [] => [replacement]
      | b :: t' =>
        if isSecondOfFour a b then
          match t' with
          | [] => [replacement]
          | c :: t'' =>
            if isTail c then
              match t'' with
              | [] => [replacement]
              | d :: t''' =>
                if isTail d then
                  Char.ofNat ((a - 0xF0) * 262144 + (b - 0x80) * 4096 + (c - 0x80) * 64 + (d - 0x80)) ::
                    decode t'''
                else replacement :: decode (d :: t''')
            else replacement :: decode (c :: t'')
        else replacement :: decode (b :: t')
    else replacement :: decode t

end Unscramble.Utf8
