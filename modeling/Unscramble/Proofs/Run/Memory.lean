import Unscramble.Proofs.Plan.Resolution
import Unscramble.Proofs.Plan.Staleness
import Unscramble.Proofs.Run.Refusal

/-! A throttling program in a memory of numbered sequences, where elements may hold any number. A
number that no sequence has is an undefined access, and no program comes to one: it moves numbers
about, but it makes none. -/
namespace Unscramble
open Outcome

/-- An element of a sequence. A sequence is held by its number. -/
inductive Word where
  | integer (v : Int)
  | text (t : Text)
  | operation (op : Operation)
  | sequence (number : Nat)
  deriving DecidableEq, Repr

def Word.ofValue : Value → Word
  | .integer v => .integer v
  | .text t => .text t
  | .operation op => .operation op
  | .sequence .operands => .sequence 0
  | .sequence .input => .sequence 1

def Word.shown : Word → Value
  | .integer v => .integer v
  | .text t => .text t
  | .operation op => .operation op
  | .sequence 0 => .sequence .operands
  | .sequence _ => .sequence .input

/-- The operand array is sequence `0` and the input is sequence `1`. -/
abbrev Memory := List (List Word)

namespace Memory
variable {m m' : Memory} {s : Step} {ss : List Step}

def operand (m : Memory) (index : Nat) : Except Failure Word := do
  let operands ← defined m[0]?
  match operands[index]? with
  | none => throw (.invalidOperand (.outOfRange index operands.length))
  | some w => return w

def apply (op : Operation) (argument : Option Word) (xs : List Word) :
    Except Failure (List Word) :=
  match op, argument with
  | .push, some w => .ok (xs ++ [w])
  | op, argument => ThrottlingProgram.apply Word.ofValue op (argument.map Word.shown) xs

def applyAt (op : Operation) (argument : Option Word) (m : Memory) (number : Nat) :
    Except Failure Memory := do
  let xs ← apply op argument (← defined m[number]?)
  return m.set number xs

def runStep (m : Memory) (s : Step) : Except Failure Memory := do
  match ← m.operand s.operation with
  | .operation op =>
    match ← m.operand s.first with
    | .sequence number => applyAt op (← s.second.mapM m.operand) m number
    | w => throw (.invalidOperand (.noSequence op w.shown))
  | w => throw (.notCallable s.operation w.shown)

def runSteps : List Step → Memory → Except Failure Memory
  | [], m => .ok m
  | s :: ss, m => do runSteps ss (← runStep m s)

def start (operands : List Operand) (input : Text) : Memory :=
  [operands.map fun o => .ofValue o.value, input.map fun c => .text [c]]

def run (p : ThrottlingProgram) (input : Text) : Except Failure Text := do
  let xs ← defined (← runSteps p.plan (start p.operands input))[1]?
  ThrottlingProgram.join (xs.map Word.shown)

/-- There are two sequences, and every number that an element holds is the number of one. -/
structure IsWellFormed (m : Memory) : Prop where
  two : m.length = 2
  numbers : ∀ xs ∈ m, ∀ number, Word.sequence number ∈ xs → number < 2

def ofArena (a : Arena Value) : Memory := [a.operands.map .ofValue, a.input.map .ofValue]

theorem shown_ofValue (v : Value) : (Word.ofValue v).shown = v := by
  cases v with
  | integer | text | operation => rfl
  | sequence slot => cases slot <;> rfl

theorem map_shown_ofValue (vs : List Value) : (vs.map Word.ofValue).map Word.shown = vs := by
  rw [List.map_map]
  exact (List.map_congr_left fun v _ => shown_ofValue v).trans (List.map_id vs)

theorem ofValue_shown {w : Word} (h : ∀ number, w = .sequence number → number < 2) :
    Word.ofValue w.shown = w := by
  cases w with
  | integer | text | operation => rfl
  | sequence number =>
    obtain _ | _ | number := number
    · rfl
    · rfl
    · exact absurd (h _ rfl) (by omega)

theorem lt_of_ofValue {v : Value} {number : Nat} (h : Word.ofValue v = .sequence number) :
    number < 2 := by
  cases v with
  | integer | text | operation => cases h
  | sequence slot => cases slot <;> cases h <;> decide

theorem isWellFormed_ofArena (a : Arena Value) : (ofArena a).IsWellFormed where
  two := rfl
  numbers xs hxs number hn := by
    have hvs : ∃ vs : List Value, xs = vs.map Word.ofValue := by
      obtain rfl | rfl := List.mem_pair.1 hxs <;> exact ⟨_, rfl⟩
    obtain ⟨vs, rfl⟩ := hvs
    obtain ⟨v, -, hv⟩ := List.mem_map.1 hn
    exact lt_of_ofValue hv

theorem exists_ofArena (h : m.IsWellFormed) : ∃ a, m = ofArena a := by
  obtain ⟨xs, ys, rfl⟩ := List.length_eq_two.1 h.two
  have hw (zs : List Word) (hz : zs ∈ [xs, ys]) :
      (zs.map Word.shown).map Word.ofValue = zs := by
    rw [List.map_map]
    refine (List.map_congr_left fun w hw => ?_).trans (List.map_id zs)
    exact ofValue_shown fun number hn => h.numbers zs hz number (hn ▸ hw)
  exact ⟨⟨xs.map Word.shown, ys.map Word.shown⟩, by rw [ofArena, hw xs (by simp), hw ys (by simp)]⟩

theorem operand_ofArena (a : Arena Value) (i : Nat) :
    operand (ofArena a) i = (a.operand i).map .ofValue := by
  cases h : a.operands[i]? <;> simp [operand, ofArena, Arena.operand, defined, h]

theorem mapM_operand_ofArena (a : Arena Value) (i : Option Nat) :
    i.mapM (operand (ofArena a)) = (i.mapM a.operand).map (Option.map .ofValue) := by
  cases i with
  | none => rfl
  | some i =>
    rw [Option.mapM_some, Option.mapM_some, operand_ofArena]
    cases a.operand i <;> rfl

theorem apply_ofValue (op : Operation) (argument : Option Value) (vs : List Value) :
    apply op (argument.map .ofValue) (vs.map .ofValue) =
      (ThrottlingProgram.apply id op argument vs).map (List.map .ofValue) := by
  have hmap : ThrottlingProgram.apply Word.ofValue op argument (vs.map .ofValue) =
      (ThrottlingProgram.apply id op argument vs).map (List.map .ofValue) :=
    ThrottlingProgram.apply_map op argument vs
  have hshown : (argument.map Word.ofValue).map Word.shown = argument := by
    cases argument <;> simp [shown_ofValue]
  cases op with
  | push =>
    cases argument with
    | none => rfl
    | some v => exact hmap
  | reverse | unshift | prepend | swap | nestedSplice | splice | cipherDispatch =>
    simpa only [apply, hshown] using hmap

theorem applyAt_ofArena (op : Operation) (argument : Option Value) (a : Arena Value) (slot : Slot)
    {number : Nat} (h : Word.ofValue (.sequence slot) = .sequence number) :
    applyAt op (argument.map .ofValue) (ofArena a) number =
      (ThrottlingProgram.applyAt id op argument a slot).map ofArena := by
  cases slot with
  | operands | input =>
    cases h
    simp only [applyAt, ofArena, List.getElem?_cons_zero, List.getElem?_cons_succ, defined,
      ok_bind, apply_ofValue, bind_map, ThrottlingProgram.applyAt, map_bind]
    rfl

theorem runStep_ofArena (a : Arena Value) (s : Step) :
    runStep (ofArena a) s = (ThrottlingProgram.runStep id a s).map ofArena := by
  unfold runStep ThrottlingProgram.runStep
  rw [operand_ofArena, bind_map, map_bind]
  congr 1
  funext v
  cases v with
  | operation op =>
    simp only [Word.ofValue]
    rw [operand_ofArena, bind_map, map_bind]
    congr 1
    funext w
    cases w with
    | integer | text | operation => rfl
    | sequence slot =>
      rw [mapM_operand_ofArena]
      cases slot with
      | operands | input =>
        simp only [Word.ofValue, bind_map, map_bind]
        congr 1
        funext argument
        exact applyAt_ofArena op argument a _ rfl
  | sequence slot => cases slot <;> rfl
  | integer | text => rfl

theorem runSteps_ofArena (ss : List Step) (a : Arena Value) :
    runSteps ss (ofArena a) = (ThrottlingProgram.runSteps id ss a).map ofArena := by
  induction ss generalizing a with
  | nil => rfl
  | cons s ss ih =>
    simp only [runSteps, ThrottlingProgram.runSteps, runStep_ofArena, bind_map, map_bind, ih]

theorem start_eq_ofArena (operands : List Operand) (input : Text) :
    start operands input = ofArena (ThrottlingProgram.start operands input) := by
  simp [start, ofArena, ThrottlingProgram.start, Function.comp_def, Word.ofValue]

/-- The program does in memory what it does in its arena. -/
theorem run_eq (p : ThrottlingProgram) (input : Text) : run p input = p.run input := by
  rw [run, start_eq_ofArena, runSteps_ofArena, bind_map, ThrottlingProgram.run]
  congr 1
  funext a
  exact congrArg ThrottlingProgram.join (map_shown_ofValue a.input)

theorem isDefined_runStep (h : m.IsWellFormed) (s : Step) : IsDefined (m.runStep s) := by
  obtain ⟨a, rfl⟩ := exists_ofArena h
  rw [runStep_ofArena]
  obtain ⟨op, slot, argument, -, -, -, hr⟩ | ⟨i, -, -, hr⟩ | ⟨v, hr⟩ | ⟨op, v, hr⟩ :=
    ThrottlingProgram.runStep_cases id a s
  · rw [hr]
    cases ha : ThrottlingProgram.applyAt id op argument a slot with
    | ok b => exact .ok _
    | error f =>
      refine .error fun hf => ?_
      cases hf ▸ ThrottlingProgram.refuses_of_applyAt ha
  all_goals exact hr ▸ .error (by simp)

theorem isWellFormed_of_runStep (h : m.IsWellFormed) (hm : m.runStep s = .ok m') :
    m'.IsWellFormed := by
  obtain ⟨a, rfl⟩ := exists_ofArena h
  rw [runStep_ofArena] at hm
  cases ha : ThrottlingProgram.runStep id a s with
  | error f => rw [ha] at hm; cases hm
  | ok b =>
    rw [ha] at hm
    exact Except.ok.inj hm ▸ isWellFormed_ofArena b

theorem isWellFormed_of_runSteps (h : m.IsWellFormed) (hm : runSteps ss m = .ok m') :
    m'.IsWellFormed := by
  induction ss generalizing m with
  | nil => exact Except.ok.inj hm ▸ h
  | cons s ss ih =>
    obtain ⟨m₁, h₁, hm⟩ := bind_eq_ok.1 hm
    exact ih (isWellFormed_of_runStep h h₁) hm

theorem isDefined_runSteps (h : m.IsWellFormed) (ss : List Step) : IsDefined (runSteps ss m) := by
  induction ss generalizing m with
  | nil => exact .ok m
  | cons s ss ih => exact (isDefined_runStep h s).bind fun _ hm => ih (isWellFormed_of_runStep h hm)

theorem isWellFormed_start (operands : List Operand) (input : Text) :
    (start operands input).IsWellFormed :=
  start_eq_ofArena operands input ▸ isWellFormed_ofArena _

theorem isDefined_run (p : ThrottlingProgram) (input : Text) : IsDefined (run p input) := by
  have hstart := isWellFormed_start p.operands input
  refine (isDefined_runSteps hstart p.plan).bind fun m hm => ?_
  have h1 : 1 < m.length := (isWellFormed_of_runSteps hstart hm).two ▸ Nat.one_lt_two
  refine (IsDefined.of_some (List.getElem?_eq_getElem h1)).bind fun xs _ h => ?_
  obtain ⟨v, hv⟩ := ThrottlingProgram.unjoinable_of_join h
  cases hv

end Memory

/-- Whatever the program and the text, nothing outside a sequence is reached. A throttling program
runs in memory as in its arena, and the memory stays well-formed from step to step. -/
theorem runs_within_bounds :
    (∀ (p : ThrottlingProgram) (input : Text),
      p.run input ≠ .error .undefinedAccess ∧ Memory.run p input = p.run input ∧
      ∀ before after m, p.plan = before ++ after →
        Memory.runSteps before (Memory.start p.operands input) = .ok m → m.IsWellFormed) ∧
    (∀ op length argument n,
      ThrottlingProgram.wrappedIndex op length argument = .ok n → n < length) ∧
    (∀ e length n, Sequence.wrap? e length = some n → n < length) ∧
    ∀ (p : SignaturePlan) (input : Text), p.run input ≠ .error .undefinedAccess := by
  refine ⟨fun p input => ⟨?_, Memory.run_eq p input, fun before after m _ hm => ?_⟩, ?_, ?_, ?_⟩
  · exact Memory.run_eq p input ▸ Memory.isDefined_run p input
  · exact Memory.isWellFormed_of_runSteps (Memory.isWellFormed_start p.operands input) hm
  · exact fun op length argument n => ThrottlingProgram.wrappedIndex_lt
  · exact fun e length n => Sequence.wrap?_lt
  · exact SignaturePlan.isDefined_run

def pushesItself : ThrottlingProgram :=
  ⟨[⟨0, 1, some 1⟩, ⟨0, 2, some 1⟩, ⟨3, 1, some 4⟩],
    [.operation .push, .itself, .text inputName, .operation .unshift, .integer (-1)]⟩

theorem pushesItself_within_bounds :
    pushesItself.run ['a'] ≠ .error .undefinedAccess ∧
    (∃ m, Memory.runSteps pushesItself.plan (Memory.start pushesItself.operands ['a']) = .ok m ∧
      m[1]? = some [.text ['a'], .sequence 0] ∧ m.IsWellFormed) ∧
    (ThrottlingProgram.wrappedIndex .unshift 6 (some (.integer (-1))) = .ok 5 ∧ 5 < 6) ∧
    Sequence.wrap? 7 3 = some 1 ∧ 1 < 3 := by
  have hsteps : Memory.runSteps pushesItself.plan (Memory.start pushesItself.operands ['a']) =
      .ok [[.sequence 0, .sequence 1, .operation .unshift, .integer (-1), .sequence 0,
        .operation .push], [.text ['a'], .sequence 0]] := by decide
  have hindex : ThrottlingProgram.wrappedIndex .unshift 6 (some (.integer (-1))) = .ok 5 := by decide
  obtain ⟨hp, hw, hs, -⟩ := runs_within_bounds
  refine ⟨(hp pushesItself ['a']).1, ⟨_, hsteps, rfl, ?_⟩, ⟨hindex, hw _ _ _ _ hindex⟩, rfl,
    hs 7 3 1 rfl⟩
  exact (hp pushesItself ['a']).2.2 _ [] _ (List.append_nil _).symm hsteps

end Unscramble
