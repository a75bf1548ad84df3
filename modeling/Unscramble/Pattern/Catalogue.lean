import Unscramble.Pattern.Set

/-! The expressions that find the parts of a player script. A name put into an expression stands
for itself, whatever characters it has. -/
namespace Unscramble.Catalogue
open Regex

def text (s : String) : Regex := literal s.toList

def gap : Regex := star true (char .blank)

def blanks : Regex := plus true (char .blank)

def digits : Regex := plus true (char .digit)

def boundary : Regex := look (.wordBoundary true)

def lower : CharClass := .range 'a' 'z'
def letter : CharClass := .union (.range 'a' 'z') [.range 'A' 'Z']
def alphanumeric : CharClass := .union (.range 'a' 'z') [.range 'A' 'Z', .range '0' '9']

def plainNameChar : CharClass :=
  .union (.range 'a' 'z') [.range 'A' 'Z', .range '0' '9', .single '$']

def nameChar : CharClass :=
  .union (.range 'a' 'z') [.range 'A' 'Z', .range '0' '9', .single '$', .single '_']

/-- What may not stand right before a name that is defined there. -/
def ownerChar : CharClass :=
  .union (.range 'a' 'z')
    [.range 'A' 'Z', .range '0' '9', .single '$', .single '_', .single '.']

def plainName : Regex := plus true (char plainNameChar)
def identifier : Regex := plus true (char nameChar)
def word : Regex := plus true (char alphanumeric)

def nameGroup : Text := "name".toList
def objectGroup : Text := "object".toList
def arrayGroup : Text := "array".toList
def openGroup : Text := "open".toList
def argumentGroup : Text := "arg".toList
def definitionGroup : Text := "def".toList
def operationGroup : Text := "op".toList
def firstGroup : Text := "first".toList
def secondGroup : Text := "second".toList
def indexGroup : Text := "index".toList
def idGroup : Text := "id".toList

def namedCall : Regex := sequence [named nameGroup plainName, text "("]

/-- `flag && holder.set(..., ` up to the second argument. -/
def guardedSet (flag holder : Regex) : Regex :=
  sequence [flag, gap, text "&&", gap, holder, text ".set(",
    plus true (char (.except (.single ','))), gap, text ",", gap]

def encoder : Regex := sequence [text "encodeURIComponent", gap, text "("]

def splitterBody : Regex :=
  sequence [gap, text "=", gap, text "function(", gap, text "a", gap, text ")", gap, text "\x7b", gap,
    text "a", gap, text "=", gap, text "a.split(", gap, text "\"\"", gap, text ")"]

def oneChar (c : Char) (cs : Text) : Regex := char (.oneOf c cs)

/-- `(...)(` before a call, the parenthesis being the whole of the first pair. -/
def parenthesised : Regex :=
  sequence [text "(", star true (char (.except (.single ')'))), text ")", gap, text "(", gap]

def signatureFunction : PatternSet :=
  ⟨.signatureFunction, nameGroup,
   [sequence [boundary, guardedSet (oneChar 'c' ['s']) (oneChar 'a' ['d', 'f']), encoder, gap, namedCall],
    sequence [boundary, guardedSet word word, encoder, gap, namedCall],
    sequence [alt boundary (char (.except plainNameChar)),
      named nameGroup (times 2 (char plainNameChar)), splitterBody],
    sequence [named nameGroup plainName, splitterBody],
    sequence [alt (text "\"signature\"") (text "'signature'"), gap, text ",", gap, namedCall],
    sequence [text ".sig||", namedCall],
    sequence [text "yt.akamaized.net/)", gap, text "||", gap, star false (char .inLine), gap,
      guardedSet (oneChar 'c' ['s']) (oneChar 'a' ['d', 'f']), optional true encoder, gap, namedCall],
    sequence [boundary, guardedSet (oneChar 'c' ['s']) (oneChar 'a' ['d', 'f']), namedCall],
    sequence [boundary, guardedSet word word, namedCall],
    sequence [boundary, guardedSet (text "c") (text "a"), parenthesised, namedCall],
    sequence [boundary, guardedSet (text "c") word, parenthesised, namedCall]]⟩

def transformObject : PatternSet :=
  ⟨.transformObject, objectGroup,
   [sequence [look .textStart, gap, named objectGroup identifier, text ".", identifier, text "("],
    sequence [look .textStart, gap, named objectGroup identifier, text "[\""]]⟩

def throttlingFunction : PatternSet :=
  ⟨.throttlingFunction, nameGroup,
   [sequence [text "a.", char letter, gap, text "&&", gap, text "(", char lower, gap, text "=", gap,
      text "a.get(\"n\"))", gap, text "&&", star false (char (.except (.oneOf ';' ['\x7d']))),
      text "||", gap, named nameGroup identifier],
    sequence [text ".get(\"n\"))&&(", char nameChar, text "=", named nameGroup identifier, text "(",
      char nameChar, text ")"]]⟩

def throttlingArray : PatternSet :=
  ⟨.throttlingArray, arrayGroup,
   [sequence [text ".get(\"n\"))&&(", char nameChar, text "=", named arrayGroup identifier, text "[",
      digits, text "](", char nameChar, text ")"],
    sequence [text "(", char lower, gap, text "=", gap, named arrayGroup plainName, text "[",
      digits, text "](", char lower, text ")"]]⟩

def tryBlock : PatternSet :=
  ⟨.tryBlock, openGroup,
   [sequence [text ";", gap, text "try", gap, named openGroup (text "\x7b")],
    sequence [boundary, text "try", gap, named openGroup (text "\x7b")]]⟩

def argument : Regex := sequence [text ",", gap, named argumentGroup digits, text ")"]

def memberCall : Regex := sequence [text ".", named nameGroup identifier, text "(", identifier]

def indexedCall : Regex :=
  sequence [text "[", oneChar '"' ['\''], named nameGroup identifier, oneChar '"' ['\''], text "](",
    identifier]

def transformCall : PatternSet :=
  ⟨.transformCall, nameGroup,
   [sequence [look .textStart, identifier, memberCall, argument, look .textEnd],
    sequence [look .textStart, identifier, indexedCall, argument, look .textEnd],
    sequence [look .textStart, identifier, memberCall, text ")", look .textEnd],
    sequence [look .textStart, identifier, indexedCall, text ")", look .textEnd]]⟩

def throttlingStep : Regex :=
  sequence [text "c[", named operationGroup digits, text "](c[", named firstGroup digits, text "]",
    optional true (sequence [text ",c[", named secondGroup digits, text "]"]), text ")"]

def indexSuffix : Regex := sequence [look .textStart, text "[", named indexGroup digits, text "]"]

def parameterAndBrace : Regex :=
  sequence [gap, text "(", gap, identifier, gap, text ")", gap, text "\x7b"]

/-- The start, or a character that ends no longer name. -/
def ownName : Regex := alt (look .textStart) (char (.except ownerChar))

/-- The definition of the function `name`, up to the opening brace of its body. -/
def functionDefinition (name : Text) : PatternSet :=
  ⟨.functionDefinition, definitionGroup,
   [sequence [ownName, named definitionGroup
      (sequence [literal name, gap, text "=", gap, text "function", parameterAndBrace])],
    named definitionGroup (sequence [text "function", blanks, literal name, parameterAndBrace])]⟩

def objectLiteral (name : Text) : PatternSet :=
  ⟨.objectLiteral, openGroup,
   [sequence [alt (text "var") (alt (text "let") (text "const")), blanks, literal name, gap, text "=",
      gap, named openGroup (text "\x7b")],
    sequence [ownName, literal name, gap, text "=", gap, named openGroup (text "\x7b")]]⟩

def arrayLiteral (name : Text) : PatternSet :=
  ⟨.arrayLiteral, openGroup,
   [sequence [text "var", blanks, literal name, gap, text "=", gap, named openGroup (text "[")],
    sequence [oneChar ';' [','], gap, literal name, gap, text "=", gap, named openGroup (text "[")]]⟩

def hexDigit : CharClass := .union (.range '0' '9') [.range 'a' 'f', .range 'A' 'F']

def playerId : PatternSet :=
  ⟨.playerId, idGroup,
   [sequence [text "/s/player/", named idGroup (times 8 (char hexDigit)), text "/"]]⟩

end Unscramble.Catalogue
