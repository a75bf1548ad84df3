import Unscramble.Text.Number

/-! Writing JSON without blanks. -/
namespace Unscramble.Json

def twoHexDigits (n : Nat) : Text := [Nat.digitChar (n / 16), Nat.digitChar (n % 16)]

def escape (c : Char) : Text :=
  if c = '"' then ['\\', '"']
  else if c = '\\' then ['\\', '\\']
  else if c = '\x08' then ['\\', 'b']
  else if c = '\x0c' then ['\\', 'f']
  else if c = '\n' then ['\\', 'n']
  else if c = '\r' then ['\\', 'r']
  else if c = '\t' then ['\\', 't']
  else if c.toNat < 0x20 then ['\\', 'u', '0', '0'] ++ twoHexDigits c.toNat
  else [c]

def renderText (t : Text) : Text := '"' :: t.flatMap escape ++ ['"']

def renderNat (n : Nat) : Text := Number.render n

def renderInt (v : Int) : Text := Number.renderInt v

def null : Text := "null".toList

def renderArray (items : List Text) : Text := '[' :: [','].intercalate items ++ [']']

def renderMember (m : Text × Text) : Text := renderText m.1 ++ ':' :: m.2

def renderObject (members : List (Text × Text)) : Text :=
  '\x7b' :: [','].intercalate (members.map renderMember) ++ ['\x7d']

end Unscramble.Json
