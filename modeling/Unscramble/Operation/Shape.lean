import Unscramble.Operation
import Unscramble.Pattern.Catalogue

/-! The shapes of function bodies that are recognised as operations. A shape may stand anywhere
inside the text; of several the one listed first decides. -/
namespace Unscramble.Operation
open Regex Catalogue

def variableName : Regex := char .word

/-- A shape whose text is `fixed` with a variable after each piece but the last. -/
def template : List String → Regex
  | [] => Regex.empty
  | [s] => text s
  | s :: t :: rest => sequence [text s, variableName, template (t :: rest)]

def aBlank : Regex := char .blank

def shapes : List (Regex × Operation) :=
  [(sequence [text "case", aBlank, digits], cipherDispatch),
   (template ["\x7bfor(", "=(", "%", ".length+", ".length)%", ".length;", "--;)", ".unshift(",
      ".pop())\x7d"], unshift),
   (template ["", ".splice(-", ").reverse().forEach(function(", ")\x7b", ".unshift(", ")\x7d)"], prepend),
   (template ["", ".splice(0,1,", ".splice(", ",1,", "[0])[0])"], nestedSplice),
   (template ["\x7b", ".reverse()\x7d"], reverse),
   (template ["for(var ", "=", ".length;", ";)", ".push(", ".splice(--", ",1)[0])\x7d"], reverse),
   (template ["\x7b", ".push(", ")\x7d"], push),
   (sequence [text "\x7bvar", aBlank, template ["", "=", "[0];", "[0]=", "[", "%", ".length];", "[", ""],
      optional true (template ["%", ".length"]), template ["]=", "\x7d"]], swap),
   (sequence [text ";var", aBlank, template ["", "=", "[0];", "[0]=", "[", "];", "[", "]=", "\x7d"]], swap),
   (template ["\x7b", ".splice(0,", ")\x7d"], splice),
   (template [";", ".splice(", ",1)\x7d"], splice)]

/-- The operation that a function literal, or just its body, denotes. -/
def classify? (source : Text) : Option Operation :=
  (shapes.find? fun e => e.1.isMatch source).map (·.2)

end Unscramble.Operation
