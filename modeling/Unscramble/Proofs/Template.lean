import Mathlib.Data.List.FinRange
import Mathlib.Data.List.OfFn
import Unscramble.Proofs.Outcome
import Unscramble.Proofs.Sequence
import Unscramble.Run.Throttling

/-! A throttling program moves the characters of its input and never looks at them. Run on the
places below `n` in place of characters, it makes a template: places and fixed texts in a row,
no place twice. Every text of `n` characters comes out as the template filled from it. -/
namespace Unscramble.ThrottlingProgram
open Outcome
variable {α β : Type} {n : Nat}

def mapInput (f : α → β) (a : Arena α) : Arena β := ⟨a.operands, a.input.map f⟩

theorem apply_map {f : α → β} {hold : Value → α} (op : Operation) (argument : Option Value)
    (xs : List α) :
    apply (f ∘ hold) op argument (xs.map f) = (apply hold op argument xs).map (List.map f) := by
  cases op with
  | reverse => simp [apply]
  | push => simp [apply, map_bind]
  | unshift | prepend =>
    simp only [apply, List.length_map, map_bind, Sequence.rotateRight?_map, defined_map]
  | swap | nestedSplice =>
    simp only [apply, List.length_map, map_bind, Sequence.swapFront?_map, defined_map]
  | splice => simp only [apply, List.length_map, map_bind, Sequence.removeAt?_map, defined_map]
  | cipherDispatch => rfl

theorem applyAt_map {f : α → β} {hold : Value → α} (op : Operation) (argument : Option Value)
    (a : Arena α) (slot : Slot) :
    applyAt (f ∘ hold) op argument (mapInput f a) slot =
      (applyAt hold op argument a slot).map (mapInput f) := by
  cases slot with
  | operands => simp [applyAt, map_bind, mapInput]
  | input => simp [applyAt, map_bind, mapInput, apply_map, bind_map]

theorem operand_mapInput (f : α → β) (a : Arena α) : (mapInput f a).operand = a.operand := rfl

theorem runStep_map {f : α → β} {hold : Value → α} (a : Arena α) (s : Step) :
    runStep (f ∘ hold) (mapInput f a) s = (runStep hold a s).map (mapInput f) := by
  unfold runStep
  simp only [operand_mapInput, map_bind]
  congr 1
  funext v
  cases v with
  | operation op =>
    simp only [map_bind]
    congr 1
    funext w
    cases w with
    | sequence slot => simp only [map_bind, applyAt_map]
    | integer | text | operation => rfl
  | integer | text | sequence => rfl

/-- What a program does to the elements of its input does not depend on what they are. -/
theorem runSteps_map {f : α → β} {hold : Value → α} (ss : List Step) (a : Arena α) :
    runSteps (f ∘ hold) ss (mapInput f a) = (runSteps hold ss a).map (mapInput f) := by
  induction ss generalizing a with
  | nil => rfl
  | cons s ss ih => simp only [runSteps, runStep_map, bind_map, map_bind, ih]

/-- An operation that removes nothing puts the elements in some order, or one held value behind
them. -/
theorem apply_perm {hold : Value → α} {op : Operation} {argument : Option Value} {xs ys : List α}
    (hop : op ≠ .splice) (h : apply hold op argument xs = .ok ys) :
    ys.Perm xs ∨ ∃ v, ys = xs ++ [hold v] := by
  cases op with
  | splice => exact absurd rfl hop
  | reverse =>
    have he : xs.reverse = ys := by simpa [apply] using h
    exact .inl (he ▸ List.reverse_perm xs)
  | push =>
    obtain ⟨v, -, hv⟩ := bind_eq_ok.1 h
    exact .inr ⟨v, by simpa using hv.symm⟩
  | unshift | prepend =>
    obtain ⟨i, -, hi⟩ := bind_eq_ok.1 h
    exact .inl (Sequence.rotateRight?_perm (defined_eq_ok.1 hi))
  | swap | nestedSplice =>
    obtain ⟨i, -, hi⟩ := bind_eq_ok.1 h
    exact .inl (Sequence.swapFront?_perm (defined_eq_ok.1 hi))
  | cipherDispatch => simp [apply] at h

/-- An operation keeps some of the elements, or puts one held value behind them. -/
theorem apply_subperm {hold : Value → α} {op : Operation} {argument : Option Value}
    {xs ys : List α} (h : apply hold op argument xs = .ok ys) :
    ys.Subperm xs ∨ ∃ v, ys = xs ++ [hold v] := by
  by_cases hop : op = .splice
  · subst hop
    obtain ⟨i, -, hi⟩ := bind_eq_ok.1 h
    exact .inl (Sequence.removeAt?_sublist (defined_eq_ok.1 hi)).subperm
  · exact (apply_perm hop h).imp_left List.Perm.subperm

theorem input_of_runStep {hold : Value → α} {a b : Arena α} {s : Step}
    (h : runStep hold a s = .ok b) :
    b.input = a.input ∨ ∃ op argument, apply hold op argument a.input = .ok b.input := by
  obtain ⟨v, -, h⟩ := bind_eq_ok.1 h
  cases v with
  | operation op =>
    obtain ⟨w, -, h⟩ := bind_eq_ok.1 h
    cases w with
    | sequence slot =>
      obtain ⟨argument, -, h⟩ := bind_eq_ok.1 h
      cases slot with
      | operands =>
        obtain ⟨os, -, he⟩ := bind_eq_ok.1 h
        exact .inl (by simpa using congrArg Arena.input (Except.ok.inj he).symm)
      | input =>
        obtain ⟨xs, hx, he⟩ := bind_eq_ok.1 h
        have hb : b.input = xs := by simpa using congrArg Arena.input (Except.ok.inj he).symm
        exact .inr ⟨op, argument, hb ▸ hx⟩
    | integer | text | operation => simp at h
  | integer | text | sequence => simp at h

/-- An element of an input whose characters are not known. -/
inductive Cell (n : Nat) where
  | place (i : Fin n)
  | held (v : Value)

inductive Part (n : Nat) where
  | place (i : Fin n)
  | fixed (t : Text)

def Cell.place? : Cell n → Option (Fin n)
  | place i => some i
  | held _ => none

def Part.place? : Part n → Option (Fin n)
  | place i => some i
  | fixed _ => none

def Cell.fill (x : Fin n → Char) : Cell n → Value
  | place i => .text [x i]
  | held v => v

def Part.fill (x : Fin n → Char) : Part n → Text
  | place i => [x i]
  | fixed t => t

def places (ps : List (Part n)) : List (Fin n) := ps.filterMap Part.place?

def fill (x : Fin n → Char) (ps : List (Part n)) : Text := ps.flatMap (Part.fill x)

def joinCells : List (Cell n) → Except Failure (List (Part n))
  | [] => .ok []
  | .place i :: cs => do return .place i :: (← joinCells cs)
  | .held (.text t) :: cs => do return .fixed t :: (← joinCells cs)
  | .held (.integer v) :: cs => do return .fixed (Number.renderInt v) :: (← joinCells cs)
  | .held v :: _ => .error (.unsupported (.unjoinable v))

def template (p : ThrottlingProgram) (n : Nat) : Except Failure (List (Part n)) := do
  joinCells (← runSteps .held p.plan
    ⟨p.operands.map Operand.value, (List.finRange n).map .place⟩).input

theorem join_fill (x : Fin n → Char) (cs : List (Cell n)) :
    join (cs.map (Cell.fill x)) = (joinCells cs).map (fill x) := by
  induction cs with
  | nil => rfl
  | cons c cs ih =>
    cases c with
    | place i => simp [join, joinCells, Cell.fill, ih, map_bind, bind_map, fill, Part.fill]
    | held v =>
      cases v with
      | integer | text =>
        simp [join, joinCells, Cell.fill, ih, map_bind, bind_map, fill, Part.fill]
      | operation | sequence => rfl

theorem start_ofFn (operands : List Operand) (x : Fin n → Char) :
    start operands (List.ofFn x) =
      mapInput (Cell.fill x) ⟨operands.map Operand.value, (List.finRange n).map .place⟩ := by
  simp [start, mapInput, List.ofFn_eq_map, Function.comp_def, Cell.fill]

theorem run_ofFn (p : ThrottlingProgram) (x : Fin n → Char) :
    p.run (List.ofFn x) = (p.template n).map (fill x) := by
  have hh : Cell.fill x ∘ Cell.held = id := rfl
  rw [run, start_ofFn, ← hh, runSteps_map, bind_map, template, map_bind]
  simp only [mapInput, join_fill]

theorem places_joinCells {cs : List (Cell n)} {ps : List (Part n)}
    (h : joinCells cs = .ok ps) : places ps = cs.filterMap Cell.place? := by
  induction cs generalizing ps with
  | nil =>
    have he : [] = ps := by simpa [joinCells] using h
    exact he ▸ rfl
  | cons c cs ih =>
    have hr {q : Part n} (hq : (joinCells cs >>= fun qs => .ok (q :: qs)) = .ok ps) :
        ∃ qs, ps = q :: qs ∧ places qs = cs.filterMap Cell.place? := by
      obtain ⟨qs, hj, he⟩ := bind_eq_ok.1 hq
      exact ⟨qs, (Except.ok.inj he).symm, ih hj⟩
    cases c with
    | place i =>
      obtain ⟨qs, rfl, hq⟩ := hr h
      simp [places, Part.place?, Cell.place?, ← hq]
    | held v =>
      cases v with
      | integer | text =>
        obtain ⟨qs, rfl, hq⟩ := hr h
        simpa [places, Part.place?, Cell.place?, List.filterMap_cons] using hq
      | operation | sequence => simp [joinCells] at h

theorem places_of_apply {op : Operation} {argument : Option Value} {xs ys : List (Cell n)}
    (h : apply .held op argument xs = .ok ys) :
    (ys.filterMap Cell.place?).Subperm (xs.filterMap Cell.place?) := by
  obtain ⟨zs, hp, hs⟩ | ⟨v, rfl⟩ := apply_subperm h
  · exact ⟨zs.filterMap Cell.place?, hp.filterMap _, hs.filterMap _⟩
  · simpa [Cell.place?, List.filterMap_cons] using List.Subperm.refl _

/-- The invariant of a run: no place is in the input that was not there before, or more often. -/
theorem places_of_runSteps {ss : List Step} {a b : Arena (Cell n)}
    (h : runSteps .held ss a = .ok b) :
    (b.input.filterMap Cell.place?).Subperm (a.input.filterMap Cell.place?) := by
  induction ss generalizing a with
  | nil =>
    have he : a = b := by simpa [runSteps] using h
    exact he ▸ List.Subperm.refl _
  | cons s ss ih =>
    obtain ⟨c, hc, hb⟩ := bind_eq_ok.1 h
    obtain he | ⟨op, argument, ha⟩ := input_of_runStep hc
    · exact he ▸ ih hb
    · exact (ih hb).trans (places_of_apply ha)

theorem nodup_places {p : ThrottlingProgram} {ps : List (Part n)}
    (h : p.template n = .ok ps) : (places ps).Nodup := by
  obtain ⟨a, ha, hj⟩ := bind_eq_ok.1 h
  obtain ⟨is, hp, hs⟩ := places_of_runSteps ha
  have hs : is.Sublist (List.finRange n) := by
    simpa [Function.comp_def, Cell.place?] using hs
  rw [places_joinCells hj]
  exact hp.nodup_iff.1 (hs.nodup (List.nodup_finRange n))

/-- A program either fails on every text of `n` characters, and always in the same way, or has one
template that uses no place twice and that every text of `n` characters is filled into. -/
theorem run_fills_template (p : ThrottlingProgram) (n : Nat) :
    (∃ e, ∀ x : Fin n → Char, p.run (List.ofFn x) = .error e) ∨
      ∃ ps : List (Part n), (places ps).Nodup ∧
        ∀ x : Fin n → Char, p.run (List.ofFn x) = .ok (fill x ps) := by
  cases h : p.template n with
  | error e => exact .inl ⟨e, fun x => by rw [run_ofFn, h, map_error]⟩
  | ok ps => exact .inr ⟨ps, nodup_places h, fun x => by rw [run_ofFn, h, map_ok]⟩

end Unscramble.ThrottlingProgram
