import Unscramble.Failure

/-! Object and array literals inside a script: where the literal that opens at an offset ends.
Brackets nest, each kind is closed by its own closer only, and double-quoted strings with
backslash escapes are passed over. -/
namespace Unscramble.Literal

/-- What the scan is inside of; `escape` holds for the one character after a backslash. -/
inductive Context where
  | brace | bracket | quote | escape
  deriving DecidableEq, Repr

def Context.ofOpener? (c : Char) : Option Context :=
  if c = '\x7b' then some .brace else if c = '[' then some .bracket
  else if c = '"' then some .quote else none

/-- The opener of a literal is a brace or a bracket. -/
def Context.ofLiteral? (c : Char) : Option Context :=
  if c = '\x7b' then some .brace else if c = '[' then some .bracket else none

def Context.closer : Context → Char
  | brace => '\x7d'
  | bracket => ']'
  | quote | escape => '"'

def step (inner : Context) (outer : List Context) (c : Char) : List Context :=
  match inner with
  | .escape => outer
  | .quote =>
    if c = '\\' then .escape :: .quote :: outer
    else if c = '"' then outer else .quote :: outer
  | _ =>
    if c = inner.closer then outer
    else match Context.ofOpener? c with
      | some k => k :: inner :: outer
      | none => inner :: outer

/-- The offset just past the character that closes every context, from a text at `offset`. -/
def closingOffset? : List Context → Nat → Text → Option Nat
  | [], offset, _ => some offset
  | _ :: _, _, [] => none
  | k :: ks, offset, c :: t => closingOffset? (step k ks c) (offset + c.utf8Size) t

def span (text : Text) (start : Nat) : Except Failure Span :=
  match text.dropBytes? start with
  | some (c :: t) =>
    match Context.ofLiteral? c with
    | none => .error (.malformed (.noLiteral start (some c)))
    | some k => match closingOffset? [k] (start + c.utf8Size) t with
      | none => .error (.unterminated start)
      | some stop => .ok ⟨start, stop⟩
  | _ => .error (.malformed (.noLiteral start none))

def covered (text : Text) (s : Span) : Except Failure Match :=
  match text.match? s with
  | none => .error .undefinedAccess
  | some m => .ok m

def at? (text : Text) (start : Nat) : Except Failure Match := do
  covered text (← span text start)

def inside (literal : Text) : Except Failure Text :=
  if 2 ≤ literal.byteLength then
    match literal.slice? ⟨1, literal.byteLength - 1⟩ with
    | none => .error .undefinedAccess
    | some t => .ok t
  else .ok []

end Unscramble.Literal
