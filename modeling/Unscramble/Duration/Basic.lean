import Unscramble.Text.Number

/-! Lengths of time to the nanosecond, and how they are written: the parts that are not zero, from
years down to nanoseconds, with a space between them. -/
namespace Unscramble

structure Duration where
  nanoseconds : Nat
  deriving DecidableEq, Repr

namespace Duration

def nanosPerSecond : Nat := 1000000000
def secondsPerDay : Nat := 86400
def secondsPerMonth : Nat := 2630016
def secondsPerYear : Nat := 31557600

def ofParts (seconds nanos : Nat) : Duration := ⟨seconds * nanosPerSecond + nanos⟩
def ofSeconds (seconds : Nat) : Duration := ofParts seconds 0

def seconds (d : Duration) : Nat := d.nanoseconds / nanosPerSecond

def subsecond (d : Duration) : Nat := d.nanoseconds % nanosPerSecond

/-- A count with its unit; nothing for zero. -/
def part (n : Nat) (unit : Text) : List Text := if n = 0 then [] else [Number.render n ++ unit]

def partPlural (n : Nat) (unit : Text) : List Text :=
  part n (if n = 1 then unit else unit ++ ['s'])

def parts (d : Duration) : List Text :=
  let inYear := d.seconds % secondsPerYear
  let inMonth := inYear % secondsPerMonth
  let inDay := inMonth % secondsPerDay
  partPlural (d.seconds / secondsPerYear) "year".toList ++
    partPlural (inYear / secondsPerMonth) "month".toList ++
    partPlural (inMonth / secondsPerDay) "day".toList ++
    part (inDay / 3600) ['h'] ++
    part (inDay % 3600 / 60) ['m'] ++
    part (inDay % 60) ['s'] ++
    part (d.subsecond / 1000000) ['m', 's'] ++
    part (d.subsecond / 1000 % 1000) ['u', 's'] ++
    part (d.subsecond % 1000) ['n', 's']

def render (d : Duration) : Text :=
  match d.parts with
  | [] => ['0', 's']
  | ps => [' '].intercalate ps

end Duration
end Unscramble
