import Unscramble.Duration.Basic
import Unscramble.Text.Blank
import Unscramble.Text.Quoted

/-! Reading a duration written as spans, each a number and a unit. The reader takes one character
at a time; its state says what it is inside of. Every sum and product must stay within 64 bits. -/
namespace Unscramble

/-- Why a text is no duration. Offsets are in bytes. -/
inductive DurationFault where
  | empty
  | numberExpected (offset : Nat)
  | invalidCharacter (offset : Nat)
  | unitNeeded (number : Nat)
  | unknownUnit (name : Text)
  | unrepresentable
  /-- The sum is beyond the largest duration, by no more than its nanoseconds carry. -/
  | overflow
  deriving DecidableEq, Repr

def DurationFault.message : DurationFault → String
  | .empty => "value was empty"
  | .numberExpected offset => s!"expected number at {offset}"
  | .invalidCharacter offset => s!"invalid character at {offset}"
  | .unitNeeded n => s!"time unit needed, for example {n}sec or {n}ms"
  | .unknownUnit name =>
    "unknown time unit " ++ String.ofList (Text.quoted name) ++ ", supported units: ns, us/µs, ms, " ++
      "sec, min, hours, days, weeks, months, years (and few variations)"
  | .unrepresentable =>
    "number is too large or cannot be represented without a lack of precision " ++
      "(values below 1ns are not supported)"
  | .overflow => "overflow in duration"

inductive TimeUnit where
  | nanosecond | microsecond | millisecond | second | minute | hour | day | week | month | year
  deriving DecidableEq, Repr

namespace TimeUnit

def spellings : List (TimeUnit × List String) :=
  [(nanosecond, ["nanos", "nsec", "ns"]),
   (microsecond, ["usec", "us", "µs"]),
   (millisecond, ["millis", "msec", "ms"]),
   (second, ["seconds", "second", "secs", "sec", "s"]),
   (minute, ["minutes", "minute", "min", "mins", "m"]),
   (hour, ["hours", "hour", "hr", "hrs", "h"]),
   (day, ["days", "day", "d"]),
   (week, ["weeks", "week", "wk", "wks", "w"]),
   (month, ["months", "month", "M"]),
   (year, ["years", "year", "yr", "yrs", "y"])]

def ofName? (name : Text) : Option TimeUnit :=
  (spellings.find? fun e => e.2.any fun s => s.toList == name).map (·.1)

inductive Size where
  | seconds (n : Nat)
  | nanos (n : Nat)

def size : TimeUnit → Size
  | nanosecond => .nanos 1
  | microsecond => .nanos 1000
  | millisecond => .nanos 1000000
  | second => .seconds 1
  | minute => .seconds 60
  | hour => .seconds 3600
  | day => .seconds Duration.secondsPerDay
  | week => .seconds (7 * Duration.secondsPerDay)
  | month => .seconds Duration.secondsPerMonth
  | year => .seconds Duration.secondsPerYear

/-- What a fraction of the unit is counted in: whole seconds from the hour on, and
nanoseconds below. A nanosecond has no fractions. -/
def fractionSize? : TimeUnit → Option Size
  | nanosecond => none
  | second => some (.nanos Duration.nanosPerSecond)
  | minute => some (.nanos (60 * Duration.nanosPerSecond))
  | u => some u.size

end TimeUnit

namespace Duration

/-- The digits behind a point: their value and the power of ten under it. -/
structure Fraction where
  numerator : Nat
  denominator : Nat
  deriving DecidableEq, Repr

def word (n : Nat) : Except DurationFault Nat :=
  if n ≤ Number.maxWord then .ok n else .error .unrepresentable

def checked (seconds nanos : Nat) : Except DurationFault Duration :=
  let d := ofParts seconds nanos
  if d.seconds ≤ Number.maxWord then .ok d else .error .overflow

/-- The whole seconds among the nanoseconds. A single one is not counted here. -/
def wholeSeconds (nanos : Nat) : Nat := if nanos = nanosPerSecond then 0 else nanos / nanosPerSecond

def addParts (d : Duration) (seconds nanos : Nat) : Except DurationFault Duration := do
  let nanos ← word (d.subsecond + nanos)
  let carried := wholeSeconds nanos
  let seconds ← word (seconds + carried)
  let seconds ← word (d.seconds + seconds)
  checked seconds (nanos - carried * nanosPerSecond)

def addScaled (d : Duration) (n denominator : Nat) (size : TimeUnit.Size) :
    Except DurationFault Duration := do
  let scaled ← word (n * match size with | .seconds k => k | .nanos k => k)
  if scaled % denominator ≠ 0 then throw .unrepresentable
  match size with
  | .seconds _ => addParts d (scaled / denominator) 0
  | .nanos _ => addParts d 0 (scaled / denominator)

def addSpan (d : Duration) (n : Nat) (fraction : Option Fraction) (unit : Text) :
    Except DurationFault Duration := do
  match TimeUnit.ofName? unit with
  | none => throw (if unit.isEmpty then .unitNeeded n else .unknownUnit unit)
  | some u =>
    let d ← addScaled d n 1 u.size
    match fraction, u.fractionSize? with
    | none, _ => return d
    | some _, none => throw .unrepresentable
    | some f, some size => addScaled d f.numerator f.denominator size

/-- What the reader is inside of. A gap has begun at offset `start`; a fraction was accepted
up to offset `last`; the letters of a unit are kept in reverse. -/
inductive Reading where
  | gap (start : Nat)
  | whole (n : Nat)
  | fraction (n : Nat) (f : Fraction) (last : Nat)
  | unit (n : Nat) (f : Option Fraction) (letters : Text)
  deriving DecidableEq, Repr

def isUnitLetter (c : Char) : Bool := c.isAlpha || c == 'µ'

def readChar (state : Reading) (sum : Option Duration) (offset : Nat) (c : Char) :
    Except DurationFault (Reading × Option Duration) := do
  match state with
  | .gap start =>
    match Number.digit? c with
    | some d => return (.whole d, sum)
    | none => if Text.isBlank c then return (.gap start, sum) else throw (.numberExpected start)
  | .whole n =>
    match Number.digit? c with
    | some d => return (.whole (← word (n * 10 + d)), sum)
    | none =>
      if Text.isBlank c then return (.whole n, sum)
      else if isUnitLetter c then return (.unit n none [c], sum)
      else if c = '.' then return (.fraction n ⟨0, 1⟩ offset, sum)
      else throw (.invalidCharacter offset)
  | .fraction n f last =>
    match Number.digit? c with
    | some d =>
      let denominator ← word (f.denominator * 10)
      let numerator ← word (f.numerator * 10 + d)
      return (.fraction n ⟨numerator, denominator⟩ (offset + c.utf8Size), sum)
    | none =>
      if Text.isBlank c then return (.fraction n f (offset + c.utf8Size), sum)
      else if isUnitLetter c && f.denominator ≠ 1 then return (.unit n (some f) [c], sum)
      else throw (.invalidCharacter last)
  | .unit n f letters =>
    match Number.digit? c with
    | some d => return (.whole d, some (← addSpan (sum.getD ⟨0⟩) n f letters.reverse))
    | none =>
      if Text.isBlank c then
        return (.gap (offset + c.utf8Size), some (← addSpan (sum.getD ⟨0⟩) n f letters.reverse))
      else if isUnitLetter c then return (.unit n f (c :: letters), sum)
      else throw (.invalidCharacter offset)

def finish (state : Reading) (sum : Option Duration) : Except DurationFault Duration :=
  match state with
  | .gap _ => match sum with
    | none => .error .empty
    | some d => .ok d
  | .whole n => .error (.unitNeeded n)
  | .fraction n f last => .error (if f.denominator = 1 then .invalidCharacter last else .unitNeeded n)
  | .unit n f letters => addSpan (sum.getD ⟨0⟩) n f letters.reverse

def readFrom (state : Reading) (sum : Option Duration) (offset : Nat) :
    Text → Except DurationFault Duration
  | [] => finish state sum
  | c :: t => do
    let (state, sum) ← readChar state sum offset c
    readFrom state sum (offset + c.utf8Size) t

/-- A lone `0` needs no unit. -/
def read (t : Text) : Except DurationFault Duration :=
  if t = ['0'] then .ok ⟨0⟩ else readFrom (.gap 0) none 0 t

end Duration
end Unscramble
