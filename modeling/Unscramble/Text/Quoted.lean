import Unscramble.Text.Basic
import Unscramble.Text.Printable

/-! Text in quotes, as messages show it: a character that is not printable is written by name,
by `\u{...}` with its code point in hexadecimal, or with a backslash before it. -/
namespace Unscramble.Text

def hexDigits (n : Nat) : Text := Nat.toDigits 16 n

def escapeIn (quote c : Char) : Text :=
  if c = '\x00' then ['\\', '0']
  else if c = '\t' then ['\\', 't']
  else if c = '\r' then ['\\', 'r']
  else if c = '\n' then ['\\', 'n']
  else if c = '\\' || c = quote then ['\\', c]
  else if isPrintable c then [c]
  else ['\\', 'u', '\x7b'] ++ hexDigits c.toNat ++ ['\x7d']

def quoted (t : Text) : Text := '"' :: t.flatMap (escapeIn '"') ++ ['"']

def quotedChar (c : Char) : Text := '\'' :: escapeIn '\'' c ++ ['\'']

end Unscramble.Text
