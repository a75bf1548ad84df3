import Unscramble.Pattern.Catalogue

/-! The pattern sets that a name is put into. They are written with the name in them, and can only be
read if there is room for it: every octet of the name is a state of its own. -/
namespace Unscramble

structure Written where
  target : Target
  group : Text
  sources : List Text

namespace Written
open Catalogue

/-- The characters that mean something in expressions or may come to mean it. -/
def reserved : Text :=
  ['\\', '.', '+', '*', '?', '(', ')', '|', '[', ']', '\x7b', '\x7d', '^', '$', '#', '&', '-', '~']

def escape (x : Text) : Text := x.flatMap fun c => if c ∈ reserved then ['\\', c] else [c]

def functionDefinition (name : Text) : Written :=
  ⟨.functionDefinition, definitionGroup,
   ["(?:^|[^a-zA-Z0-9$_.])(?P<def>".toList ++ escape name ++
      "\\s*=\\s*function\\s*\\(\\s*[a-zA-Z0-9$_]+\\s*\\)\\s*\\\x7b)".toList,
    "(?P<def>function\\s+".toList ++ escape name ++
      "\\s*\\(\\s*[a-zA-Z0-9$_]+\\s*\\)\\s*\\\x7b)".toList]⟩

def objectLiteral (name : Text) : Written :=
  ⟨.objectLiteral, openGroup,
   ["(?:var|let|const)\\s+".toList ++ escape name ++ "\\s*=\\s*(?P<open>\\\x7b)".toList,
    "(?:^|[^a-zA-Z0-9$_.])".toList ++ escape name ++ "\\s*=\\s*(?P<open>\\\x7b)".toList]⟩

def arrayLiteral (name : Text) : Written :=
  ⟨.arrayLiteral, openGroup,
   ["var\\s+".toList ++ escape name ++ "\\s*=\\s*(?P<open>\\[)".toList,
    "[;,]\\s*".toList ++ escape name ++ "\\s*=\\s*(?P<open>\\[)".toList]⟩

end Written

namespace Catalogue

/-- What a script may have under a name. -/
inductive Kind where
  | function | object | array
  deriving DecidableEq, Repr

def Kind.written : Kind → Text → Written
  | function => Written.functionDefinition
  | object => Written.objectLiteral
  | array => Written.arrayLiteral

def Kind.set : Kind → Text → PatternSet
  | function => functionDefinition
  | object => objectLiteral
  | array => arrayLiteral

/-- There is room for a name of so many octets, whatever its characters are. -/
def roomyLength : Nat := 326900

/-- The set for a name, if it can be read as it is written. Only a very long name has to be measured
for that. -/
def finder (k : Kind) (name : Text) : Except Failure PatternSet :=
  if name.byteLength ≤ roomyLength then .ok (k.set name)
  else
    let w := k.written name
    (PatternSet.ofSources w.target w.group w.sources).map fun _ => k.set name

end Catalogue
end Unscramble
