import Unscramble.Proofs.Body.Methods
import Unscramble.Proofs.Outcome
import Unscramble.Proofs.Sequence
import Unscramble.Run.Throttling

/-! Each operation does to a list what the bodies do that scripts write for it. -/
namespace Unscramble
variable {α : Type}

namespace Body

def turn : Body α Unit := do unshift (← pop)

/-- `for(e=(e%d.length+d.length)%d.length;e--;)d.unshift(d.pop())` -/
def turning (e : Int) : Body α Unit := do rounds turn (← wrapped e).toNat

/-- `d.splice(-e).reverse().forEach(function(f){d.unshift(f)})`, with `e` counted around -/
def prepending (e : Int) : Body α Unit := do
  let removed ← splice (-(← wrapped e)) none []
  forM removed.reverse unshift

/-- `d.splice(0,1,d.splice(e,1,d[0])[0])`, with `e` counted around -/
def nesting (e : Int) : Body α Unit := do
  let n ← wrapped e
  let removed ← splice n (some 1) [← item 0]
  let _ ← splice 0 (some 1) [← first removed]
  return

/-- `var f=d[0];d[0]=d[i];d[i]=f`, where `i` is worked out each time -/
def exchanging (i : Body α Int) : Body α Unit := do
  let f ← item 0
  assign 0 (← item (← i))
  assign (← i) f

def removing (e : Int) : Body α Unit := do
  let _ ← splice (← wrapped e) (some 1) []
  return

def dropping (b : Nat) : Body α Unit := do
  let _ ← splice 0 (some b) []
  return

/-- `for(;k;)d.push(d.splice(--k,1)[0])` -/
def turningOver : Nat → Body α Unit
  | 0 => pure ()
  | k + 1 => do
    push (← first (← splice k (some 1) []))
    turningOver k

theorem rounds_turn (xs ys : List α) :
    (rounds turn ys.length).run (xs ++ ys) = some ((), ys ++ xs) := by
  induction ys using List.reverseRecOn generalizing xs with
  | nil => simp [rounds]
  | append_singleton ys y ih =>
    have hp : pop.run (xs ++ (ys ++ [y])) = some (y, xs ++ ys) := by
      rw [← List.append_assoc]
      exact pop_run (xs ++ ys) y
    simpa [rounds, turn, hp] using ih (y :: xs)

theorem forM_unshift (xs ys : List α) :
    (forM ys unshift : Body α Unit).run xs = some ((), ys.reverse ++ xs) := by
  induction ys generalizing xs with
  | nil => simp
  | cons y ys ih => simp [ih]

/-- The elements in front of place `k` are still in order, those behind it are turned over. -/
theorem turningOver_run (xs ys : List α) :
    (turningOver xs.length).run (xs ++ ys) = some ((), ys ++ xs.reverse) := by
  induction xs using List.reverseRecOn generalizing ys with
  | nil => simp [turningOver]
  | append_singleton xs x ih =>
    have hs := splice_at [] xs ys x
    simpa [turningOver, hs, first] using ih (ys ++ [x])

theorem exists_wrapped {xs : List α} (e : Int) (h : xs ≠ []) :
    ∃ n < xs.length, Sequence.wrap? e xs.length = some n ∧
      (wrapped e).run xs = some ((n : Int), xs) := by
  have hl : 0 < xs.length := List.length_pos_iff.2 h
  have hn := Int.emod_nonneg e (b := xs.length) (by omega)
  have hu := Int.emod_lt_of_pos e (b := xs.length) (by omega)
  refine ⟨(e % xs.length).toNat, by omega, ?_, ?_⟩
  · rw [Sequence.wrap?, if_neg (Nat.ne_of_gt hl)]
  · rw [wrapped_run e h, Int.toNat_of_nonneg hn]

theorem turning_run {xs : List α} (e : Int) (h : xs ≠ []) :
    ∃ n ys, Sequence.wrap? e xs.length = some n ∧ Sequence.rotateRight? n xs = some ys ∧
      (turning e).run xs = some ((), ys) := by
  obtain ⟨n, hn, hw, hr⟩ := exists_wrapped e h
  have ht := rounds_turn (xs.take (xs.length - n)) (xs.drop (xs.length - n))
  have hl : (xs.drop (xs.length - n)).length = n := by
    rw [List.length_drop]
    omega
  rw [hl, List.take_append_drop] at ht
  exact ⟨n, _, hw, if_pos (Nat.le_of_lt hn), by simp [turning, hr, ht]⟩

theorem prepending_run {xs : List α} (e : Int) (h : xs ≠ []) :
    ∃ n ys, Sequence.wrap? e xs.length = some n ∧ Sequence.rotateRight? n xs = some ys ∧
      (prepending e).run xs = some ((), ys) := by
  obtain ⟨n, hn, hw, hr⟩ := exists_wrapped e h
  refine ⟨n, _, hw, if_pos (Nat.le_of_lt hn), ?_⟩
  by_cases hz : n = 0
  · -- nothing is counted off, so everything is removed and put back
    subst hz
    have hs : (splice 0 none []).run xs = some (xs, []) := splice_back (Nat.zero_le _)
    simp [prepending, hr, hs, forM_unshift]
  · simp [prepending, hr, splice_back (Nat.le_of_lt hn), hz, forM_unshift]

theorem exchanging_run {xs : List α} {i : Body α Int} {n : Nat} (hn : n < xs.length)
    (hi : ∀ ys : List α, ys.length = xs.length → i.run ys = some ((n : Int), ys)) :
    ∃ ys, Sequence.swapFront? n xs = some ys ∧ (exchanging i).run xs = some ((), ys) := by
  have h0 : 0 < xs.length := by omega
  refine ⟨_, Sequence.swapFront?_of_lt h0 hn, ?_⟩
  have hf : (item 0).run xs = some (xs[0], xs) := item_run h0
  have ha : (assign 0 xs[n]).run xs = some ((), xs.set 0 xs[n]) := assign_run xs[n] h0
  have hb : (assign n xs[0]).run (xs.set 0 xs[n]) = some ((), (xs.set 0 xs[n]).set n xs[0]) :=
    assign_run xs[0] (by simpa using hn)
  simp [exchanging, hf, hi xs rfl, item_run hn, ha, hi (xs.set 0 xs[n]) (by simp), hb]

theorem nesting_run {xs : List α} (e : Int) (h : xs ≠ []) :
    ∃ n ys, Sequence.wrap? e xs.length = some n ∧ Sequence.swapFront? n xs = some ys ∧
      (nesting e).run xs = some ((), ys) := by
  obtain ⟨n, hn, hw, hr⟩ := exists_wrapped e h
  have h0 : 0 < xs.length := by omega
  refine ⟨n, _, hw, Sequence.swapFront?_of_lt h0 hn, ?_⟩
  have hf : (item 0).run xs = some (xs[0], xs) := item_run h0
  have hl : 0 < (xs.set n xs[0]).length := by simpa using h0
  have hs : (splice 0 (some 1) [xs[n]]).run (xs.set n xs[0]) =
      some ([(xs.set n xs[0])[0]], (xs.set n xs[0]).set 0 xs[n]) := splice_set xs[n] hl
  -- the inner call writes first here, and at one place both write the same
  have hc : (xs.set n xs[0]).set 0 xs[n] = (xs.set 0 xs[n]).set n xs[0] := by
    by_cases hz : n = 0
    · subst hz
      rfl
    · exact List.set_comm _ _ hz
  simp [nesting, hr, hf, splice_set xs[0] hn, first, hs, hc]

theorem removing_run {xs : List α} (e : Int) (h : xs ≠ []) :
    ∃ n ys, Sequence.wrap? e xs.length = some n ∧ Sequence.removeAt? n xs = some ys ∧
      (removing e).run xs = some ((), ys) := by
  obtain ⟨n, hn, hw, hr⟩ := exists_wrapped e h
  refine ⟨n, _, hw, if_pos hn, ?_⟩
  simp [removing, hr, splice_erase hn]

theorem remainder_cast {xs ys : List α} (b : Nat) (h : xs ≠ []) (hl : ys.length = xs.length) :
    (remainder b).run ys = some (((b % xs.length : Nat) : Int), ys) := by
  have hy : ys ≠ [] := by
    rintro rfl
    exact h (List.length_eq_zero_iff.1 hl.symm)
  rw [remainder_run _ hy, hl]
  rfl

end Body

namespace Operation

/-- The bodies that a throttling script writes for an operation, where `argument` is what it passes
behind the list. -/
inductive HasBody : Operation → Option Value → Body Value Unit → Prop
  | reverse (argument) : HasBody .reverse argument Body.reverse
  | turnOver (argument) :
    HasBody .reverse argument (do Body.turningOver (← Body.length))
  | push (v) : HasBody .push (some v) (Body.push v)
  | unshift (e) : HasBody .unshift (some (.integer e)) (Body.turning e)
  | prepend (e) : HasBody .prepend (some (.integer e)) (Body.prepending e)
  | nestedSplice (e) : HasBody .nestedSplice (some (.integer e)) (Body.nesting e)
  | swap (e) :
    HasBody .swap (some (.integer e)) (do Body.exchanging (pure (← Body.wrapped e)))
  | splice (e) : HasBody .splice (some (.integer e)) (Body.removing e)

/-- The bodies that a script writes for an operation on a signature, called with `b`. -/
inductive HasSignatureBody : Operation → Nat → Body α Unit → Prop
  | reverse (b) : HasSignatureBody .reverse b Body.reverse
  | splice (b) : HasSignatureBody .splice b (Body.dropping b)
  | swap (b) : HasSignatureBody .swap b (Body.exchanging (Body.remainder b))

end Operation

namespace ThrottlingProgram
open Outcome
open Operation (HasBody)

theorem wrappedIndex_of_wrap {op : Operation} {e : Int} {length n : Nat}
    (h : Sequence.wrap? e length = some n) :
    wrappedIndex op length (some (.integer e)) = .ok n := by
  have hl : length ≠ 0 := by
    rintro rfl
    simp [Sequence.wrap?] at h
  simp only [wrappedIndex, required, ok_bind, if_neg hl, h]
  rfl

/-- An operation does to a list what each of its bodies does. -/
theorem apply_of_hasBody {op : Operation} {argument : Option Value} {body : Body Value Unit}
    (hb : HasBody op argument body) {xs : List Value}
    (hx : xs = [] → op = .reverse ∨ op = .push) :
    ∃ ys, body.run xs = some ((), ys) ∧ apply id op argument xs = .ok ys := by
  cases hb with
  | reverse argument => exact ⟨xs.reverse, rfl, rfl⟩
  | turnOver argument =>
    have hr := Body.turningOver_run xs []
    exact ⟨xs.reverse, by simpa using hr, rfl⟩
  | push v => exact ⟨xs ++ [v], rfl, rfl⟩
  | unshift e =>
    obtain ⟨n, ys, hw, hs, hr⟩ := Body.turning_run e fun h => by simpa using hx h
    exact ⟨ys, hr, by simp only [apply, wrappedIndex_of_wrap hw, ok_bind, hs, defined]⟩
  | prepend e =>
    obtain ⟨n, ys, hw, hs, hr⟩ := Body.prepending_run e fun h => by simpa using hx h
    exact ⟨ys, hr, by simp only [apply, wrappedIndex_of_wrap hw, ok_bind, hs, defined]⟩
  | nestedSplice e =>
    obtain ⟨n, ys, hw, hs, hr⟩ := Body.nesting_run e fun h => by simpa using hx h
    exact ⟨ys, hr, by simp only [apply, wrappedIndex_of_wrap hw, ok_bind, hs, defined]⟩
  | swap e =>
    obtain ⟨n, hn, hw, hr⟩ := Body.exists_wrapped e fun h => by simpa using hx h
    obtain ⟨ys, hs, he⟩ := Body.exchanging_run (i := pure (n : Int)) hn fun _ _ => rfl
    exact ⟨ys, by simp [hr, he], by simp only [apply, wrappedIndex_of_wrap hw, ok_bind, hs, defined]⟩
  | splice e =>
    obtain ⟨n, ys, hw, hs, hr⟩ := Body.removing_run e fun h => by simpa using hx h
    exact ⟨ys, hr, by simp only [apply, wrappedIndex_of_wrap hw, ok_bind, hs, defined]⟩

end ThrottlingProgram

namespace Arena

def sequence (a : Arena Value) : Slot → List Value
  | .operands => a.operands
  | .input => a.input

def replace (a : Arena Value) (slot : Slot) (xs : List Value) : Arena Value :=
  match slot with
  | .operands => { a with operands := xs }
  | .input => { a with input := xs }

end Arena

theorem ThrottlingProgram.applyAt_of_apply {op : Operation} {argument : Option Value}
    {a : Arena Value} {slot : Slot} {ys : List Value}
    (h : apply id op argument (a.sequence slot) = .ok ys) :
    applyAt id op argument a slot = .ok (a.replace slot ys) := by
  cases slot with
  | operands =>
    have ho : apply id op argument a.operands = .ok ys := h
    simp [applyAt, ho, Arena.replace]
  | input =>
    have hi : apply id op argument a.input = .ok ys := h
    simp [applyAt, hi, Arena.replace]

theorem SignaturePlan.apply_of_hasSignatureBody {op : Operation} {call : Call}
    {body : Body α Unit} (hb : Operation.HasSignatureBody op call.argument body) {xs : List α}
    (hx : xs ≠ []) :
    ∃ ys, body.run xs = some ((), ys) ∧ apply op call xs = .ok ys := by
  generalize hn : call.argument = b at hb
  cases hb with
  | reverse => exact ⟨xs.reverse, rfl, rfl⟩
  | splice =>
    refine ⟨xs.drop b, by simp [Body.dropping, Body.splice_front], ?_⟩
    simp [apply, hn, Sequence.dropFront?_min, defined]
  | swap =>
    have hl : 0 < xs.length := List.length_pos_iff.2 hx
    have hw := Sequence.wrap?_natCast b hl
    obtain ⟨ys, hs, hr⟩ := Body.exchanging_run (i := Body.remainder b) (Nat.mod_lt b hl)
      fun ys hy => Body.remainder_cast b hx hy
    exact ⟨ys, hr, by simp [apply, hn, hx, hw, hs, defined]⟩

/-- A step of a throttling program and a statement of a signature plan do to their list what each
body does that a script writes for the called operation, and nothing else. -/
theorem Operation.run_as_written :
    (∀ (a : Arena Value) (s : Step) (op : Operation) (slot : Slot) (argument : Option Value)
        (body : Body Value Unit),
      a.operand s.operation = .ok (.operation op) → a.operand s.first = .ok (.sequence slot) →
      s.second.mapM a.operand = .ok argument → HasBody op argument body →
      (a.sequence slot = [] → op = .reverse ∨ op = .push) →
      ∃ ys, body.run (a.sequence slot) = some ((), ys) ∧
        ThrottlingProgram.runStep id a s = .ok (a.replace slot ys)) ∧
    (∀ (operations : OperationTable) (statement : Text) (call : Call) (op : Operation)
        (body : Body α Unit) (xs : List α),
      Call.ofStatement statement = .ok call → operations.find? call.name = some op →
      HasSignatureBody op call.argument body → xs ≠ [] →
      ∃ ys, body.run xs = some ((), ys) ∧
        SignaturePlan.runStatement operations xs statement = .ok ys) := by
  constructor
  · intro a s op slot argument body ho hf hs hb hx
    obtain ⟨ys, hr, ha⟩ := ThrottlingProgram.apply_of_hasBody hb hx
    refine ⟨ys, hr, ?_⟩
    simp only [ThrottlingProgram.runStep, ho, hf, hs, Outcome.ok_bind]
    exact ThrottlingProgram.applyAt_of_apply ha
  · intro operations statement call op body xs hc ho hb hx
    obtain ⟨ys, hr, ha⟩ := SignaturePlan.apply_of_hasSignatureBody hb hx
    refine ⟨ys, hr, ?_⟩
    simp only [SignaturePlan.runStatement, hc, ho, Outcome.ok_bind]
    exact ha

/-- Three characters turned by `-1`, and three exchanged by a call that counts four. -/
theorem Operation.run_as_written_three :
    (∃ ys, (Body.prepending (-1)).run [.text ['x'], .text ['y'], .text ['z']] = some ((), ys) ∧
      ThrottlingProgram.runStep id
        ⟨[.operation .prepend, .sequence .input, .integer (-1)],
          [.text ['x'], .text ['y'], .text ['z']]⟩ ⟨0, 1, some 2⟩ =
        .ok ⟨[.operation .prepend, .sequence .input, .integer (-1)], ys⟩) ∧
    (∃ ys, (Body.exchanging (Body.remainder 4)).run ['x', 'y', 'z'] = some ((), ys) ∧
      SignaturePlan.runStatement (.ofList [("kT".toList, .swap)]) ['x', 'y', 'z']
        "DE.kT(a,4)".toList = .ok ys) := by
  have hc : Call.ofStatement "DE.kT(a,4)".toList = .ok ⟨"kT".toList, 4⟩ :=
    by decide +kernel
  obtain ⟨hs, ht⟩ := Operation.run_as_written (α := Char)
  constructor
  · exact hs ⟨[.operation .prepend, .sequence .input, .integer (-1)],
      [.text ['x'], .text ['y'], .text ['z']]⟩ ⟨0, 1, some 2⟩ .prepend .input
      (some (.integer (-1))) _ rfl rfl rfl (.prepend (-1)) (by simp [Arena.sequence])
  · exact ht _ _ _ .swap _ _ hc (by decide) (.swap 4) (by simp)

end Unscramble
