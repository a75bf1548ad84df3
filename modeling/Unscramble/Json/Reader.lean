import Unscramble.Json.Scalar

/-! Reading JSON texts of a known form. A reader takes its value from the front of a text and
returns what is left. -/
namespace Unscramble.Json

abbrev Reader (α : Type) := Text → Except Problem (α × Text)

def readColon (t : Text) : Except Problem Text :=
  match skipBlanks t with
  | ':' :: t => .ok t
  | [] => .error .endOfText
  | _ => .error .notJson

def readQuote (t : Text) : Except Problem Text :=
  match skipBlanks t with
  | '"' :: t => .ok t
  | [] => .error .endOfText
  | _ => .error .notJson

mutual

def skipValueWithin : Nat → Text → Except Problem Text
  | 0, _ => .error .endOfText
  | bound + 1, t => match skipBlanks t with
    | [] => .error .endOfText
    | c :: t =>
      if c = '"' then skipString t
      else if c = 'n' then expect "ull".toList t
      else if c = 't' then expect "rue".toList t
      else if c = 'f' then expect "alse".toList t
      else if c = '[' then skipItems bound true t
      else if c = '\x7b' then skipMembers bound true t
      else if startsNumeral c then skipNumeral (c :: t)
      else .error .notJson

def skipItems : Nat → Bool → Text → Except Problem Text
  | 0, _, _ => .error .endOfText
  | bound + 1, isFirst, t => match skipBlanks t with
    | [] => .error .endOfText
    | ']' :: t => .ok t
    | c :: t => do
      if !isFirst && c != ',' then throw .notJson
      skipItems bound false (← skipValueWithin bound (if isFirst then c :: t else t))

def skipMembers : Nat → Bool → Text → Except Problem Text
  | 0, _, _ => .error .endOfText
  | bound + 1, isFirst, t => match skipBlanks t with
    | [] => .error .endOfText
    | '\x7d' :: t => .ok t
    | c :: t => do
      if !isFirst && c != ',' then throw .notJson
      let t ← skipString (← readQuote (if isFirst then c :: t else t))
      skipMembers bound false (← skipValueWithin bound (← readColon t))

end

def skipValue (t : Text) : Except Problem Text := skipValueWithin (2 * t.length + 2) t

/-- What is wrong with a text that starts with a value of another kind than the one wanted. A
value without parts is read before it is refused. -/
def otherKind (t : Text) : Problem :=
  match t with
  | [] => .endOfText
  | c :: rest =>
    let read : Except Problem Unit := do
      if c = '"' then discard (readString rest)
      else if c = 'n' then discard (expect "ull".toList rest)
      else if c = 't' then discard (expect "rue".toList rest)
      else if c = 'f' then discard (expect "alse".toList rest)
      else if startsNumeral c then discard (readNumeral t)
      else if c != '[' && c != '\x7b' then throw .notJson
    match read with
    | .ok _ => .wrongContent
    | .error p => p

def readNumber (t : Text) : Except Problem (Numeral × Text) :=
  match skipBlanks t with
  | c :: rest => if startsNumeral c then readNumeral (c :: rest) else .error (otherKind (c :: rest))
  | [] => .error .endOfText

def readNat (bound : Nat) : Reader Nat := fun t => do
  match ← readNumber t with
  | (.integer v, t) => if 0 ≤ v ∧ v ≤ bound then return (v.toNat, t) else throw .wrongContent
  | _ => throw .wrongContent

/-- A number with a sign, of 64 bits. -/
def readInt : Reader Int := fun t => do
  match ← readNumber t with
  | (.integer v, t) => if v ≤ Number.maxSigned then return (v, t) else throw .wrongContent
  | _ => throw .wrongContent

def readText : Reader Text := fun t =>
  match skipBlanks t with
  | '"' :: rest => readString rest
  | t => .error (otherKind t)

def readNull : Reader Unit := fun t =>
  match skipBlanks t with
  | 'n' :: rest => (expect "ull".toList rest).map ((), ·)
  | t => .error (otherKind t)

def readOptional {α : Type} (read : Reader α) : Reader (Option α) := fun t =>
  match skipBlanks t with
  | 'n' :: rest => (expect "ull".toList rest).map (none, ·)
  | t => (read t).map fun (a, t) => (some a, t)

def nextItem? (isFirst : Bool) (t : Text) : Except Problem (Option Text) :=
  match skipBlanks t with
  | [] => .error .endOfText
  | ']' :: _ => .ok none
  | c :: rest =>
    if isFirst then .ok (some (c :: rest))
    else if c = ',' then
      match skipBlanks rest with
      | [] => .error .endOfText
      | ']' :: _ => .error .notJson
      | rest => .ok (some rest)
    else .error .notJson

def closeArray (t : Text) : Except Problem Text :=
  match skipBlanks t with
  | ']' :: t => .ok t
  | [] => .error .endOfText
  | _ => .error .notJson

def readItems {α : Type} (read : Reader α) : Nat → Bool → Reader (List α)
  | 0, _, _ => .error .endOfText
  | bound + 1, isFirst, t => do
    match ← nextItem? isFirst t with
    | none => return ([], ← closeArray t)
    | some t =>
      let (a, t) ← read t
      let (as, t) ← readItems read bound false t
      return (a :: as, t)

def readList {α : Type} (read : Reader α) : Reader (List α) := fun t =>
  match skipBlanks t with
  | '[' :: rest => readItems read (rest.length + 1) true rest
  | t => .error (otherKind t)

def nextMember? (isFirst : Bool) (t : Text) : Except Problem (Option Text) :=
  match skipBlanks t with
  | [] => .error .endOfText
  | '\x7d' :: _ => .ok none
  | c :: rest =>
    if isFirst then (readQuote (c :: rest)).map some
    else if c = ',' then (readQuote rest).map some
    else .error .notJson

def closeObject (t : Text) : Except Problem Text :=
  match skipBlanks t with
  | '\x7d' :: t => .ok t
  | [] => .error .endOfText
  | _ => .error .notJson

def readMembers {α : Type} (read : Reader α) : Nat → Bool → Reader (List (Text × α))
  | 0, _, _ => .error .endOfText
  | bound + 1, isFirst, t => do
    match ← nextMember? isFirst t with
    | none => return ([], ← closeObject t)
    | some t =>
      let (name, t) ← readString t
      let (a, t) ← read (← readColon t)
      let (rest, t) ← readMembers read bound false t
      return ((name, a) :: rest, t)

def readMap {α : Type} (read : Reader α) : Reader (List (Text × α)) := fun t =>
  match skipBlanks t with
  | '\x7b' :: rest => readMembers read (rest.length + 1) true rest
  | t => .error (otherKind t)

/-- A field of a record that is collected in a `σ`. -/
structure Field (σ : Type) where
  name : Text
  isSet : σ → Bool
  read : σ → Reader σ

/-- Unknown names are passed over; a known name may not come twice. -/
def readFields {σ : Type} (fields : List (Field σ)) : Nat → Bool → σ → Reader σ
  | 0, _, _, _ => .error .endOfText
  | bound + 1, isFirst, s, t => do
    match ← nextMember? isFirst t with
    | none => return (s, ← closeObject t)
    | some t =>
      let (name, t) ← readString t
      match fields.find? (·.name == name) with
      | none => readFields fields bound false s (← skipValue (← readColon t))
      | some f =>
        if f.isSet s then throw .wrongContent
        let (s, t) ← f.read s (← readColon t)
        readFields fields bound false s t

/-- The values of the fields in their order. `mayStop` lets the array end early. -/
def readElements {σ : Type} (mayStop : Bool) : List (Field σ) → Bool → σ → Reader σ
  | [], _, s, t => do return (s, ← closeArray t)
  | f :: fs, isFirst, s, t => do
    match ← nextItem? isFirst t with
    | none => if mayStop then return (s, ← closeArray t) else throw .wrongContent
    | some t =>
      let (s, t) ← f.read s t
      readElements mayStop fs false s t

def readRecord {σ α : Type} (mayStop : Bool) (fields : List (Field σ)) (blank : σ)
    (finish : σ → Option α) : Reader α := fun t => do
  let (s, t) ← match skipBlanks t with
    | '\x7b' :: rest => readFields fields (rest.length + 1) true blank rest
    | '[' :: rest => readElements mayStop fields true blank rest
    | t => .error (otherKind t)
  match finish s with
  | none => throw .wrongContent
  | some a => return (a, t)

/-- A choice: a name alone, or an object with one name and what that name holds. -/
def readChoice {α : Type} (alone : Text → Option α) (holding : Text → Option (Reader α)) :
    Reader α := fun t =>
  match skipBlanks t with
  | '"' :: rest => do
    let (name, t) ← readString rest
    match alone name with
    | none => throw .wrongContent
    | some a => return (a, t)
  | '\x7b' :: rest => do
    let (name, t) ← readString (← readQuote rest)
    match holding name with
    | none => throw .wrongContent
    | some read =>
      let (a, t) ← read (← readColon t)
      return (a, ← closeObject t)
  | [] => .error .endOfText
  | _ => .error .notJson

def readWholeText {α : Type} (read : Reader α) (t : Text) : Except Problem α := do
  let (a, rest) ← read t
  if (skipBlanks rest).isEmpty then return a else throw .notJson

end Unscramble.Json
