import Unscramble.Text.Basic

/-! Labels of domain names in ASCII form. Behind the ASCII characters and a dash stand numbers, each
for one character further on in code order and for the place where it is inserted. A number is
written in base 36 from its low end, and its last digit is below the threshold of its place. -/
namespace Unscramble.Url.Punycode

def digit? (c : Char) : Option Nat :=
  if 'a' ≤ c && c ≤ 'z' then some (c.toNat - 0x61)
  else if c.isDigit then some (c.toNat - 0x30 + 26)
  else none

def threshold (place bias : Nat) : Nat :=
  if place ≤ bias then 1 else if bias + 26 ≤ place then 26 else place - bias

def readNumber (bias place weight : Nat) : Text → Option (Nat × Text)
  | [] => none
  | c :: t => do
    let d ← digit? c
    let least := threshold place bias
    if d < least then return (d * weight, t)
    let (n, t) ← readNumber bias (place + 36) (weight * (36 - least)) t
    return (d * weight + n, t)

theorem length_lt_of_readNumber {t rest : Text} {bias place weight n : Nat}
    (h : readNumber bias place weight t = some (n, rest)) : rest.length < t.length := by
  induction t generalizing place weight n rest with
  | nil => simp [readNumber] at h
  | cons c t ih =>
    simp only [readNumber, Option.bind_eq_bind, Option.bind_eq_some_iff] at h
    obtain ⟨d, _, h⟩ := h
    split at h
    · simp only [Option.pure_def, Option.some.injEq, Prod.mk.injEq] at h
      simp [← h.2]
    · obtain ⟨⟨m, r⟩, hr, h⟩ := Option.bind_eq_some_iff.1 h
      simp only [Option.pure_def, Option.some.injEq, Prod.mk.injEq] at h
      have := ih hr
      rw [List.length_cons, ← h.2]
      omega

/-- Divides until little is left, and counts 36 for each time. -/
def settled (bias delta : Nat) : Nat :=
  if 455 < delta then settled (bias + 36) (delta / 35) else bias + 36 * delta / (delta + 38)
termination_by delta

/-- The bias for the next number, which is expected to be about as large as this one. -/
def adapted (delta count : Nat) : Nat := settled 0 (delta + delta / count)

/-- Inserts the characters that are still to be read. The last one was `code`, right before the
place `index`. -/
def insertAll (code index bias : Nat) (done rest : Text) : Option Text :=
  match rest with
  | [] => some done
  | c :: t =>
    match h : readNumber bias 36 1 (c :: t) with
    | none => none
    | some (delta, left) =>
      let count := done.length + 1
      let next := code + (index + delta) / count
      let place := (index + delta) % count
      if next.isValidChar then
        insertAll next (place + 1) (adapted (delta / (if index = 0 then 700 else 2)) count)
          (done.insertIdx place (Char.ofNat next)) left
      else none
termination_by rest.length
decreasing_by exact length_lt_of_readNumber h

def split (t : Text) : Text × Text :=
  match Text.splitOnce? '-' t.reverse with
  | none | some (_, []) => ([], t)
  | some (after, before) => (before.reverse, after.reverse)

def decode? (t : Text) : Option Text :=
  let (basic, numbers) := split t
  insertAll 128 0 72 basic numbers

end Unscramble.Url.Punycode
