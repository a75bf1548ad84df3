import Unscramble.Script.Commas
import Unscramble.Script.Literal

/-! The elements of an array literal. A function literal is one element whatever its parameter
list and body hold; any other element ends at the next top-level comma. -/
namespace Unscramble.Elements

def keyword : Text := "function".toList

/-- The first forty characters, for messages. -/
def preview (t : Text) : Text := t.take 40

def functionLength (t : Text) : Except Failure Nat :=
  match t.splitOnce? ')' with
  | none => .error (.malformed (.noParameterList (preview t)))
  | some (params, rest) =>
    let bodyStart := params.byteLength + 1 + Text.byteLength (rest.takeWhile Text.isBlank)
    (Literal.span t bodyStart).map (·.stop)

/-- The element at the start of `t`, which is not blank, and what follows its comma. -/
def next (t : Text) : Except Failure (Text × Text) := do
  if keyword.isPrefixOf t then
    let n ← functionLength t
    match t.takeBytes? n, t.dropBytes? n with
    | some element, some rest => return (element, rest.trimStart.stripStart ',')
    | _, _ => throw .undefinedAccess
  else match Commas.cut? t with
    | some (element, rest) => return (element.trimEnd, rest)
    | none => return (t.trimEnd, [])

/-- Elements up to the end of `t`. Every element takes at least one character, so the length of
`t` bounds their number. -/
def collect : Nat → Text → Except Failure (List Text)
  | bound, t =>
    if t.trimStart.isEmpty then .ok []
    else match bound with
      | 0 => .error .undefinedAccess
      | bound + 1 => do
        let (element, rest) ← next t.trimStart
        return element :: (← collect bound rest)

/-- The elements of a literal that starts with `[`; its `]` may be missing. -/
def ofLiteral : Text → Except Failure (List Text)
  | '[' :: t =>
    let body := Text.stripEnd (Text.trimEnd t) ']'
    collect body.length body
  | t => .error (.malformed (.noArray (preview t)))

end Unscramble.Elements
