import Unscramble.Text.Basic
import Unscramble.Text.Ranges

/-! Blank characters (the Unicode property White_Space) and trimming. -/
namespace Unscramble.Text

/-- White space of every script; neither U+200B nor U+FEFF is in it. -/
def isBlank (c : Char) : Bool :=
  let n := c.toNat
  (9 ≤ n && n ≤ 13) || n == 0x20 || n == 0x85 || n == 0xA0 || n == 0x1680 ||
    (0x2000 ≤ n && n ≤ 0x200A) || n == 0x2028 || n == 0x2029 || n == 0x202F || n == 0x205F ||
    n == 0x3000

def blankSet : Ranges :=
  [(9, 13), (0x20, 0x20), (0x85, 0x85), (0xA0, 0xA0), (0x1680, 0x1680), (0x2000, 0x200A),
   (0x2028, 0x2029), (0x202F, 0x202F), (0x205F, 0x205F), (0x3000, 0x3000)]

def trimStart (t : Text) : Text := t.dropWhile isBlank
def trimEnd (t : Text) : Text := dropEndWhile isBlank t
def trim (t : Text) : Text := trimBy isBlank t

end Unscramble.Text
