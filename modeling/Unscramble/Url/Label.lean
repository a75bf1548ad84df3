import Unscramble.Text.Composition
import Unscramble.Text.Domain
import Unscramble.Text.Joining
import Unscramble.Text.Mark
import Unscramble.Url.Punycode

/-! Labels of domain names, the parts between the points. A label beyond ASCII stands in a name in
its ASCII form behind `xn--`. -/
namespace Unscramble.Url.Label

def maxEncoded : Nat := 2000

def maxDecoded : Nat := 1000

/-- Whether a joiner may stand behind `before`, which is in reverse, and in front of `after`: behind
a sign that kills a vowel, or as a separator where characters would be joined on both sides. -/
def mayJoin (joiner : Char) (before after : Text) : Bool :=
  match before with
  | [] => false
  | c :: _ =>
    Text.markClass c == Text.vowelKiller ||
      (joiner == '\u200C' &&
        (before.dropWhile Text.isTransparent).head?.any Text.joinsAhead &&
        (after.dropWhile Text.isTransparent).head?.any Text.joinsBack)

def joinersFit (before : Text) : Text → Bool
  | [] => true
  | c :: t => (!Text.isJoiner c || mayJoin c before t) && joinersFit (c :: before) t

def isValid (t : Text) : Bool :=
  t.length ≤ maxDecoded && !t.head?.any Text.isMark &&
    t.all (fun c => c.toNat < 128 || Text.isJoiner c || Text.isDomainCharacter c) &&
    Text.composed t == t && joinersFit [] t

def read? (t : Text) : Option Text :=
  match t with
  | 'x' :: 'n' :: '-' :: '-' :: code =>
    if code.isEmpty || code.getLast? == some '-' || maxEncoded < code.length then none
    else do
      let label ← Punycode.decode? code
      if isValid label then return label else none
  | t => some t

def runsLeft (t : Text) : Bool :=
  t.any fun c => Text.flow c == .rightToLeft || Text.flow c == .arabicNumber

/-- Whether a label keeps its characters together in a line that runs in two directions. Marks at
its end do not count. -/
def keepsTogether (t : Text) : Bool :=
  match t.map Text.flow with
  | [] => true
  | first :: rest =>
    let rest := (rest.reverse.dropWhile (· == .mark)).reverse
    match first with
    | .leftToRight =>
      rest.all (fun f => f != .rightToLeft && f != .arabicNumber) &&
        rest.getLast?.all fun f => f == .leftToRight || f == .europeanNumber
    | .rightToLeft =>
      rest.all (· != .leftToRight) &&
        rest.getLast?.all (fun f => f != .mark && f != .neutral) &&
        !(rest.contains .europeanNumber && rest.contains .arabicNumber)
    | _ => false

def areName (ts : List Text) : Bool :=
  match ts.mapM read? with
  | none => false
  | some labels => !labels.any runsLeft || labels.all keepsTogether

end Unscramble.Url.Label
