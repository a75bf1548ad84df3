import Unscramble.Url.Host

/-! Paths of URLs: segments with `.` and `..` resolved. A segment that looks like a drive letter is
never dropped by the `..` behind it. -/
namespace Unscramble.Url

inductive Kind where
  | special (defaultPort : Nat) | file | other
  deriving DecidableEq, Repr

def Kind.ofScheme (scheme : Text) : Kind :=
  if scheme = "http".toList || scheme = "ws".toList then .special 80
  else if scheme = "https".toList || scheme = "wss".toList then .special 443
  else if scheme = "ftp".toList then .special 21
  else if scheme = "file".toList then .file
  else .other

/-- In schemes with rules of their own a backslash is as good as a slash. -/
def Kind.isSlash (k : Kind) (c : Char) : Bool := c == '/' || (c == '\\' && k != .other)

def escapesInFragment (c : Char) : Bool := isControl c || " \"<>`".toList.contains c

def escapesInPath (c : Char) : Bool := escapesInFragment c || c == '#' || c == '?' ||
  c == '\x7b' || c == '\x7d'

def escapesInUserinfo (c : Char) : Bool := escapesInPath c || "/:;=@[\\]^|".toList.contains c

def escapesInQuery (k : Kind) (c : Char) : Bool :=
  isControl c || " \"#<>".toList.contains c || (c == '\'' && k != .other)

/-- A segment with `%2e` read as a point, for the comparison with `.` and `..`. -/
def dotted : Text → Text
  | '%' :: '2' :: 'e' :: t | '%' :: '2' :: 'E' :: t => '.' :: dotted t
  | c :: t => c :: dotted t
  | [] => []

/-- Tabs and line breaks, which do not count. -/
def isBreak (c : Char) : Bool := c == '\t' || c == '\n' || c == '\r'

def withoutBreaks (t : Text) : Text := t.filter fun c => !isBreak c

def isDriveLetter (s : Text) : Bool :=
  match s with
  | [c, d] => c.isAlpha && (d == ':' || d == '|')
  | _ => false

def startsWithDrive (s : Text) : Bool :=
  isDriveLetter (s.take 2) && (s.length == 2 || s[2]? == some '\\')

def parent : List Text → List Text
  | [] => []
  | s :: ss => if startsWithDrive s then s :: ss else ss

def splitSlashes (k : Kind) : Text → List Text
  | [] => [[]]
  | c :: t =>
    if k.isSlash c then [] :: splitSlashes k t
    else match splitSlashes k t with
      | [] => [[c]]
      | p :: ps => (c :: p) :: ps

/-- A drive letter with a colon that has a break right behind it and more text after that. It is
a segment of its own, and so is that text. -/
def brokenDrive? (s : Text) : Option (Text × Text) :=
  match s.dropWhile isBreak with
  | [] => none
  | c :: t =>
    match t.dropWhile isBreak with
    | ':' :: d :: t =>
      if c.isAlpha && isBreak d && (withoutBreaks t) != [] then some ([c, ':'], withoutBreaks t)
      else none
    | _ => none

/-- The segments put on one another, the last one first, and whether they start at a drive letter
that stood first in a `file` URL. -/
structure Resolved where
  segments : List Text
  onDrive : Bool
  deriving DecidableEq, Repr

def firstOfFile (s : Text) : Resolved :=
  match brokenDrive? s with
  | some (drive, rest) => ⟨[Percent.encode escapesInPath rest, drive], false⟩
  | none =>
    let s := withoutBreaks s
    if isDriveLetter s then ⟨[s.take 1 ++ [':']], true⟩ else ⟨[Percent.encode escapesInPath s], false⟩

def resolve (k : Kind) (isLast : Bool) (r : Resolved) (s : Text) : Resolved :=
  let ended (ss : List Text) : Resolved := { r with segments := if isLast then [] :: ss else ss }
  if dotted (withoutBreaks s) = ['.', '.'] then ended (parent r.segments)
  else if dotted (withoutBreaks s) = ['.'] then ended r.segments
  else if k = .file && r.segments.isEmpty then firstOfFile s
  else { r with segments := Percent.encode escapesInPath (withoutBreaks s) :: r.segments }

def resolveAll (k : Kind) : Resolved → List Text → Resolved
  | r, [] => r
  | r, [s] => resolve k true r s
  | r, s :: ss => resolveAll k (resolve k false r s) ss

def Resolved.ofText (k : Kind) (t : Text) : Resolved := resolveAll k ⟨[], false⟩ (splitSlashes k t)

/-- The path in `file` URLs does not begin with an empty segment, unless it is the only one. -/
def Resolved.path (k : Kind) (r : Resolved) : Text :=
  let segments := r.segments.reverse
  let segments := if k = .file then
      match segments.dropWhile List.isEmpty with
      | [] => [[]]
      | ss => ss
    else segments
  '/' :: ['/'].intercalate segments

def pathOf (k : Kind) (t : Text) : Text := (Resolved.ofText k t).path k

end Unscramble.Url
