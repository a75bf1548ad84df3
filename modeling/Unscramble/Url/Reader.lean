import Unscramble.Url.Library

/-! Reading absolute URLs the way browsers do: blanks around and breaks inside are dropped,
backslashes count as slashes where the scheme has rules of its own, and every component is put
into canonical form. -/
namespace Unscramble.Url
variable (toAscii : Text → Option Text)

/-- Controls and spaces around the text do not count. -/
def trimmed (t : Text) : Text := Text.trimBy (· ≤ ' ') t

def isSchemeChar (c : Char) : Bool := c.isAlphanum || c == '+' || c == '-' || c == '.'

def scheme? (t : Text) : Option (Text × Text) :=
  match t with
  | [] => none
  | c :: _ =>
    if c.isAlpha then
      match t.dropWhile isSchemeChar with
      | ':' :: rest => some ((t.takeWhile isSchemeChar).map Char.toLower, rest)
      | _ => none
    else none

def splitUser? (t : Text) : Option (Text × Text) :=
  (Text.splitOnce? '@' t.reverse).map fun (after, before) => (before.reverse, after.reverse)

/-- User and password, escaped, with the `@` behind them. An empty password is dropped. -/
def renderUser (t : Text) : Text :=
  let (name, password) := (Text.splitOnce? ':' t).getD (t, [])
  if name.isEmpty && password.isEmpty then []
  else
    Percent.encode escapesInUserinfo name ++
      (if password.isEmpty then [] else ':' :: Percent.encode escapesInUserinfo password) ++ ['@']

/-- The host, and what follows its colon; colons inside brackets belong to the host. -/
def splitPort (inBrackets : Bool) : Text → Text × Option Text
  | [] => ([], none)
  | c :: t =>
    if c = ':' && !inBrackets then ([], some t)
    else
      let inside := if c = '[' then true else if c = ']' then false else inBrackets
      let (host, number) := splitPort inside t
      (c :: host, number)

def portNumber? (t : Text) : Except Fault (Option Nat) :=
  if t.all Char.isDigit then
    if t.isEmpty then .ok none
    else if digitsValue 10 t < 65536 then .ok (some (digitsValue 10 t))
    else .error .invalidPort
  else .error .invalidPort

def renderPort (k : Kind) : Option Nat → Text
  | none => []
  | some n => if k = .special n then [] else ':' :: Number.render n

/-- The host with its number, given what stands in the authority behind the user, and what is left:
the number ends at a backslash even where that is no slash. -/
def renderHostAndPort (k : Kind) (hasUser : Bool) (t : Text) : Except Fault (Text × Text) := do
  let (hostText, portText) := splitPort false t
  if hostText.isEmpty then
    if k != .other || portText.isSome || hasUser then throw .emptyHost
    return ([], [])
  let host ← if k = .other then Host.parseOpaque hostText else Host.parse toAscii hostText
  match portText with
  | none => return (host.render, [])
  | some p =>
    let number ← portNumber? (p.takeWhile (· != '\\'))
    return (host.render ++ renderPort k number, p.dropWhile (· != '\\'))

/-- The authority in canonical form, given its text, and what is left of the text; `closed` says
that something follows it. -/
def authorityOf (k : Kind) (closed : Bool) (t : Text) : Except Fault (Text × Text) :=
  match splitUser? t with
  | none => renderHostAndPort toAscii k false t
  | some (user, host) =>
    if user.isEmpty && host.isEmpty && closed then .error .emptyHost
    else do
      let user := renderUser user
      let (shown, left) ← renderHostAndPort toAscii k (!user.isEmpty) host
      return (user ++ shown, left)

def splitTail (k : Kind) (t : Text) : Text × Option Text × Option Text :=
  let (body, fragment) := match Text.splitOnce? '#' t with
    | none => (t, none)
    | some (a, f) => (a, some (Percent.encode escapesInFragment f))
  match Text.splitOnce? '?' body with
  | none => (body, none, fragment)
  | some (a, q) => (a, some (Percent.encode (escapesInQuery k) q), fragment)

/-- The path behind an authority. Only a scheme without rules of its own may have none. -/
def pathBehindAuthority (k : Kind) (t : Text) : Text :=
  match t with
  | [] => if k = .other then [] else ['/']
  | c :: r => pathOf k (if k.isSlash c then r else t)

def readHierarchical (scheme : Text) (k : Kind) (t : Text) : Except Fault Url := do
  let (body, query, fragment) := splitTail k t
  let rest := body.dropWhile fun c => !k.isSlash c
  let closed := !rest.isEmpty || query.isSome || fragment.isSome
  let (authority, left) ← authorityOf toAscii k closed (body.takeWhile fun c => !k.isSlash c)
  return ⟨scheme, some authority, pathBehindAuthority k (left ++ rest), query, fragment⟩

def behindSlash? (t : Text) : Option Text :=
  match t.dropWhile isBreak with
  | [] => none
  | c :: t => if Kind.file.isSlash c then some t else none

/-- The host and the path that follow `//` in a `file` URL. A drive letter there is part of the
path; the local host is left out, as is any host in front of a drive letter. Without a host the
slash behind it counts as a segment. -/
def fileHostAndPath (t : Text) : Except Fault (Text × Resolved) := do
  let host := withoutBreaks (t.takeWhile fun c => !Kind.file.isSlash c)
  let rest := t.dropWhile fun c => !Kind.file.isSlash c
  if isDriveLetter host then return ([], .ofText .file t)
  let shown ← if host.isEmpty then pure [] else (Host.parse toAscii host).map Host.render
  if shown.isEmpty || shown = "localhost".toList then return ([], .ofText .file rest)
  let path := Resolved.ofText .file (rest.drop 1)
  return (if path.onDrive then [] else shown, path)

def readFile (scheme t : Text) : Except Fault Url := do
  let (_, query, fragment) := splitTail .file (withoutBreaks t)
  let body := t.takeWhile fun c => c != '?' && c != '#'
  let (host, path) ← match behindSlash? body with
    | none => pure ([], Resolved.ofText .file body)
    | some rest => match behindSlash? rest with
      | none => pure ([], Resolved.ofText .file rest)
      | some rest => fileHostAndPath toAscii rest
  return ⟨scheme, some host, path.path .file, query, fragment⟩

def readOther (scheme t : Text) : Except Fault Url :=
  match t with
  | '/' :: '/' :: r => readHierarchical toAscii scheme .other r
  | t =>
    let (body, query, fragment) := splitTail .other t
    let path := match body with
      | '/' :: r => pathOf .other r
      | _ => Percent.encode isControl body
    .ok ⟨scheme, none, path, query, fragment⟩

def read (t : Text) : Except Fault Url :=
  match scheme? (withoutBreaks (trimmed t)) with
  | none => .error .noScheme
  | some (scheme, rest) =>
    match Kind.ofScheme scheme with
    | .other => readOther toAscii scheme rest
    | .file => readFile toAscii scheme (((trimmed t).dropWhile (· != ':')).drop 1)
    | .special n => readHierarchical toAscii scheme (.special n) (rest.dropWhile (Kind.special n).isSlash)

/-- URLs as the standard for them has it, given how host names beyond ASCII are mapped to it. -/
def standard : Library Url where
  parse := read toAscii
  render := render
  parts u := u
  withPairs := withPairs

end Unscramble.Url
